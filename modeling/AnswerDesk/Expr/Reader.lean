import AnswerDesk.Expr
import AnswerDesk.Token

/-!
# `AnswerDesk.Expr.Reader`: from tokens to a tree

The grammar, loosest binding first:

* an expression is terms joined by `+` and `-`;
* a term is factors joined by `*` and `/`;
* a factor is a number, a minus and a factor, or an expression in parentheses.

Operators of one level associate to the left, and nothing is worked out here: a
division by zero is a calculation like any other.

Two limits keep trees small. An opening parenthesis and a minus sign before a
factor each open a level, which closes after that factor, and no more than a given
number of levels may be open at once. The recursion in `factor` is on the number of
levels that may still be opened. Independently, no tree may be higher than
`maxHeight`. This is what ends the loop in `chain`: each operator it takes makes the
tree higher.

Only the tokens before the first end mark count. A sequence without an end mark is
read as if one stood at the position of its last token.
-/

set_option autoImplicit false

namespace AnswerDesk

/-- What would have been read instead of an unexpected token. -/
inductive Expected where
  | operand
  | closing
  | operatorOrEnd
  deriving Repr, DecidableEq

def Expected.message : Expected → String
  | .operand => "nombre, '-' ou '('"
  | .closing => "')'"
  | .operatorOrEnd => "opérateur ou fin d’entrée"

/-- Why a sequence of tokens has no tree. -/
inductive GrammarError where
  | unexpected (found : Token.Kind) (expected : Expected) (pos : Nat)
  | emptyExpression
  /-- A level too many, or a tree too high; `pos` is that of the token to blame. -/
  | tooDeep (limit pos : Nat)
  deriving Repr, DecidableEq

def GrammarError.message : GrammarError → String
  | .unexpected found expected pos =>
    s!"{found.display} inattendu en position {pos} (attendu : {expected.message})"
  | .emptyExpression => "expression vide"
  | .tooDeep limit pos => s!"expression trop imbriquée en position {pos} (limite : {limit})"

namespace Expr

/-- No tree that was read is higher than this. It also bounds the number of levels
that may be open, whatever limit is asked for. -/
def maxHeight : Nat := 512

/-- The number of levels that may be open unless another limit is asked for. -/
def defaultDepth : Nat := 64

/-- A rule of the grammar reads a tree from the front of a sequence of tokens and
returns the tokens that it did not use. -/
abbrev Rule := List Token → Except GrammarError (Expr × List Token)

/-- The error at the first of these tokens, or at the end mark if there is none. -/
def unexpectedAt (finish : Nat) (expected : Expected) : List Token → GrammarError
  | [] => .unexpected .finish expected finish
  | t :: _ => .unexpected t.kind expected t.pos

/-- The tree, unless it is too high; `pos` is that of the operator at its root. -/
def ofHeight (e : Expr) (pos : Nat) (rest : List Token) :
    Except GrammarError (Expr × List Token) :=
  if e.height ≤ maxHeight then .ok (e, rest) else .error (.tooDeep maxHeight pos)

/-- Joins further operands to `left` as long as one of the operators of `op?` comes. -/
def chain (operand : Rule) (op? : Token.Kind → Option Op) (left : Expr) (ts : List Token) :
    Except GrammarError (Expr × List Token) :=
  match ts with
  | [] => .ok (left, [])
  | t :: rest =>
    match op? t.kind with
    | none => .ok (left, t :: rest)
    | some op =>
      match operand rest with
      | .error e => .error e
      | .ok (right, rest) =>
        if _ : (Expr.binary op left right).height ≤ maxHeight then
          chain operand op? (.binary op left right) rest
        else
          .error (.tooDeep maxHeight t.pos)
termination_by maxHeight - left.height
decreasing_by
  simp only [height] at *
  omega

/-- Operands joined by operators of one level. -/
def joined (op? : Token.Kind → Option Op) (operand : Rule) : Rule := fun ts =>
  match operand ts with
  | .error e => .error e
  | .ok (left, rest) => chain operand op? left rest

/-- The operators that join factors. -/
def factorOp? : Token.Kind → Option Op
  | .operator .mul => some .mul
  | .operator .div => some .div
  | _ => none

/-- The operators that join terms. -/
def termOp? : Token.Kind → Option Op
  | .operator .add => some .add
  | .operator .sub => some .sub
  | _ => none

/-- An expression, given how factors are read. -/
def expression (factor : Rule) : Rule :=
  joined termOp? (joined factorOp? factor)

/-- A factor. `room` is the number of levels that may still be opened of the `limit`
levels in all, and `finish` the position of the end mark. -/
def factor (limit finish room : Nat) : Rule := fun ts =>
  match ts with
  | ⟨.number value, _⟩ :: rest => .ok (.literal value, rest)
  | ⟨.operator .sub, pos⟩ :: rest =>
    match room with
    | 0 => .error (.tooDeep limit pos)
    | room + 1 =>
      match factor limit finish room rest with
      | .error e => .error e
      | .ok (e, rest) => ofHeight (.negate e) pos rest
  | ⟨.opening, pos⟩ :: rest =>
    match room with
    | 0 => .error (.tooDeep limit pos)
    | room + 1 =>
      match expression (factor limit finish room) rest with
      | .error e => .error e
      | .ok (e, ⟨.closing, _⟩ :: rest) => .ok (e, rest)
      | .ok (_, rest) => .error (unexpectedAt finish .closing rest)
  | ts => .error (unexpectedAt finish .operand ts)

/-- The tokens before the first end mark. -/
def body (tokens : List Token) : List Token :=
  tokens.takeWhile (·.kind ≠ .finish)

/-- The position of the first end mark; without one, that of the last token. -/
def finishPos (tokens : List Token) : Nat :=
  match tokens.find? (·.kind = .finish) with
  | some mark => mark.pos
  | none => (tokens.getLast?.map (·.pos)).getD 0

/-- The tree of a sequence of tokens, with at most `depth` levels open at once. -/
def ofTokens (depth : Nat) (tokens : List Token) : Except GrammarError Expr :=
  let limit := min depth maxHeight
  let finish := finishPos tokens
  match body tokens with
  | [] => .error .emptyExpression
  | t :: ts =>
    match expression (factor limit finish limit) (t :: ts) with
    | .error e => .error e
    | .ok (e, []) => .ok e
    | .ok (_, rest) => .error (unexpectedAt finish .operatorOrEnd rest)

end Expr

end AnswerDesk
