import AnswerDesk.Decimal.Writer
import AnswerDesk.Op

/-!
# `AnswerDesk.Token`: the lexemes of a calculation

A token is a number, an operator, a parenthesis, or the mark that ends a sequence
of tokens, with the position of its first character in the text. Numbers carry no
sign: a minus is always a token of its own.

A kind is written in two ways. Its `spelling` is how it stands in a calculation;
the end mark has none. Its `display` is how an error message names it.
-/

set_option autoImplicit false

namespace AnswerDesk

/-- What a token is, apart from its position. -/
inductive Token.Kind where
  | number (value : Rat)
  | operator (op : Op)
  | opening
  | closing
  | finish
  deriving Repr, DecidableEq

/-- A lexeme and the position where it starts. -/
structure Token where
  kind : Token.Kind
  pos : Nat
  deriving Repr, DecidableEq

namespace Token

/-- The kind of a token that is one character long. -/
def Kind.ofChar? (c : Char) : Option Kind :=
  match c with
  | '(' => some .opening
  | ')' => some .closing
  | c => (Op.ofSymbol? c).map .operator

/-- How a token of this kind stands in a calculation. -/
def Kind.spelling? : Kind → Option String
  | .number value => some (Decimal.write value Decimal.defaultDigits)
  | .operator op => some op.symbol.toString
  | .opening => some "("
  | .closing => some ")"
  | .finish => none

/-- How an error message names a token of this kind: a number as it is, the other
lexemes in quotes. -/
def Kind.display : Kind → String
  | .number value => Decimal.write value Decimal.defaultDigits
  | .operator op => s!"'{op.symbol}'"
  | .opening => "'('"
  | .closing => "')'"
  | .finish => "fin d’entrée"

/-- The tokens on one line, one space apart, without the end mark. -/
def line (tokens : List Token) : String :=
  " ".intercalate (tokens.filterMap (·.kind.spelling?))

end Token

end AnswerDesk
