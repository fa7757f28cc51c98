import AnswerDesk.Expr
import AnswerDesk.Token

/-!
# `AnswerDesk.Proofs.Expr.Grammar`: the grammar of calculations

`Expr.Reader` reads a calculation with three functions that call each other. This file
says what a calculation is without reading anything:

    expression := term (('+' | '-') term)*
    term       := factor (('*' | '/') factor)*
    factor     := '-' factor | '(' expression ')' | NUMBER

`Derives n ks e levels` reads: the rule `n` derives the kinds `ks`, `e` is the tree of
the derivation, and `levels` is the largest number of levels that are open at once. A
minus sign before a factor and an opening parenthesis open a level each, which closes
behind that factor. Two phrases side by side therefore share their levels, and a
derivation has the larger of the two numbers.

The repetitions are spelled as rules that are recursive on the left, which is how
operators of one level associate. Positions play no part, so the relation is on kinds.
-/

set_option autoImplicit false

namespace AnswerDesk.Expr

open Token (Kind)

/-- The rules of the grammar, loosest binding first. -/
inductive Nonterminal where
  | expression
  | term
  | factor
  deriving Repr, DecidableEq

/-- The derivations of the grammar, each with its tree and its number of levels. -/
inductive Derives : Nonterminal → List Kind → Expr → Nat → Prop
  /-- A number is a factor and opens no level. -/
  | number (v : Rat) : Derives .factor [.number v] (.literal v) 0
  /-- A minus sign before a factor opens a level. -/
  | negation {ks : List Kind} {e : Expr} {levels : Nat} (he : Derives .factor ks e levels) :
      Derives .factor (.operator .sub :: ks) (.negate e) (levels + 1)
  /-- A pair of parentheses opens a level and leaves no trace in the tree. -/
  | parentheses {ks : List Kind} {e : Expr} {levels : Nat}
      (he : Derives .expression ks e levels) :
      Derives .factor (.opening :: (ks ++ [.closing])) e (levels + 1)
  /-- A term may be one factor. -/
  | factor {ks : List Kind} {e : Expr} {levels : Nat} (he : Derives .factor ks e levels) :
      Derives .term ks e levels
  /-- A term goes on with `*` or `/` and a factor. -/
  | product {ks ls : List Kind} {a b : Expr} {op : Op} {c d : Nat}
      (hop : op = .mul ∨ op = .div) (ha : Derives .term ks a c) (hb : Derives .factor ls b d) :
      Derives .term (ks ++ .operator op :: ls) (.binary op a b) (max c d)
  /-- An expression may be one term. -/
  | term {ks : List Kind} {e : Expr} {levels : Nat} (he : Derives .term ks e levels) :
      Derives .expression ks e levels
  /-- An expression goes on with `+` or `-` and a term. -/
  | sum {ks ls : List Kind} {a b : Expr} {op : Op} {c d : Nat}
      (hop : op = .add ∨ op = .sub) (ha : Derives .expression ks a c)
      (hb : Derives .term ls b d) :
      Derives .expression (ks ++ .operator op :: ls) (.binary op a b) (max c d)

namespace Derives

/-- A factor stands where an expression is asked for. -/
theorem expression_of_factor {ks : List Kind} {e : Expr} {levels : Nat}
    (he : Derives .factor ks e levels) : Derives .expression ks e levels :=
  .term (.factor he)

/-- Two factors joined by any operator are an expression: the operator settles whether
they make a term or two. -/
theorem expression_of_factors {ks ls : List Kind} {a b : Expr} {c d : Nat} (op : Op)
    (ha : Derives .factor ks a c) (hb : Derives .factor ls b d) :
    Derives .expression (ks ++ .operator op :: ls) (.binary op a b) (max c d) := by
  cases op with
  | add => exact .sum (.inl rfl) (expression_of_factor ha) (.factor hb)
  | sub => exact .sum (.inr rfl) (expression_of_factor ha) (.factor hb)
  | mul => exact .term (.product (.inl rfl) (.factor ha) hb)
  | div => exact .term (.product (.inr rfl) (.factor ha) hb)

/-- The literals of the tree are the numbers among the kinds. -/
theorem literal_mem_postorder_iff {n : Nonterminal} {ks : List Kind} {e : Expr} {levels : Nat}
    (h : Derives n ks e levels) (v : Rat) :
    .literal v ∈ e.postorder ↔ Kind.number v ∈ ks := by
  induction h with
  | number w => simp [postorder]
  | negation _ ih => simp [postorder, ih]
  | parentheses _ ih => simp [ih]
  | factor _ ih => exact ih
  | product _ _ _ iha ihb => simp [postorder, iha, ihb]
  | term _ ih => exact ih
  | sum _ _ _ iha ihb => simp [postorder, iha, ihb]

/-- Whatever is derived has a number in it. In particular nothing derives the empty
sequence. -/
theorem exists_number_mem {n : Nonterminal} {ks : List Kind} {e : Expr} {levels : Nat}
    (h : Derives n ks e levels) : ∃ v, Kind.number v ∈ ks := by
  induction h with
  | number v => exact ⟨v, by simp⟩
  | negation _ ih => exact ih.imp fun v hv => by simp [hv]
  | parentheses _ ih => exact ih.imp fun v hv => by simp [hv]
  | factor _ ih => exact ih
  | product _ _ _ iha _ => exact iha.imp fun v hv => by simp [hv]
  | term _ ih => exact ih
  | sum _ _ _ iha _ => exact iha.imp fun v hv => by simp [hv]

end Derives

end AnswerDesk.Expr
