import AnswerDesk.Decimal.Writer
import AnswerDesk.Op

/-!
# `AnswerDesk.Expr`: the tree of a calculation

A tree is a literal, a negated tree, or two trees joined by an operation. Its
text (`Expr.text`) puts every operation between parentheses, so it shows how a
calculation was read.

`Expr.height` counts the operations on the longest way from the root to a
literal. `Expr.postorder` lists the subtrees in the order in which a calculation
is worked out: left, right, then the operation that joins them.
-/

set_option autoImplicit false

namespace AnswerDesk

/-- A calculation. -/
inductive Expr where
  | literal (value : Rat)
  | negate (operand : Expr)
  | binary (op : Op) (left right : Expr)
  deriving Repr, DecidableEq

namespace Expr

/-- The number of operations on the longest way from the root to a literal. -/
def height : Expr → Nat
  | .literal _ => 0
  | .negate e => e.height + 1
  | .binary _ a b => max a.height b.height + 1

/-- The tree with parentheses around every operation. -/
def text : Expr → String
  | .literal value => Decimal.write value Decimal.defaultDigits
  | .negate e => "(-" ++ e.text ++ ")"
  | .binary op a b => "(" ++ a.text ++ " " ++ op.symbol.toString ++ " " ++ b.text ++ ")"

/-- All subtrees, each after the subtrees below it. -/
def postorder : Expr → List Expr
  | .literal value => [.literal value]
  | .negate e => e.postorder ++ [.negate e]
  | .binary op a b => a.postorder ++ b.postorder ++ [.binary op a b]

end Expr

end AnswerDesk
