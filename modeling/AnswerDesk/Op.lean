/-!
# `AnswerDesk.Op`: the four operations of arithmetic
-/

set_option autoImplicit false

namespace AnswerDesk

/-- An operation on two numbers. -/
inductive Op where
  | add
  | sub
  | mul
  | div
  deriving Repr, DecidableEq

/-- The character that stands for the operation. -/
def Op.symbol : Op → Char
  | .add => '+'
  | .sub => '-'
  | .mul => '*'
  | .div => '/'

/-- The operation that a character stands for. -/
def Op.ofSymbol? : Char → Option Op
  | '+' => some .add
  | '-' => some .sub
  | '*' => some .mul
  | '/' => some .div
  | _ => none

theorem Op.ofSymbol?_symbol (op : Op) : Op.ofSymbol? op.symbol = some op := by
  cases op <;> rfl

end AnswerDesk
