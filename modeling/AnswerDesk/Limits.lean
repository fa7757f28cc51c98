import AnswerDesk.Decimal.Writer
import AnswerDesk.Expr.Reader

/-!
# `AnswerDesk.Limits`: the bounds on what is calculated

Three bounds can be chosen: the number of levels open at once, the number of
characters of a calculation, and the number of digits written of an expansion that
does not end. Each choice has a cap, which no setting exceeds.
-/

set_option autoImplicit false

namespace AnswerDesk

/-- Bounds on calculations. -/
structure Limits where
  /-- Levels open at once. -/
  depth : Nat := Expr.defaultDepth
  /-- Characters of a calculation. -/
  length : Nat := 1024
  /-- Digits after the point of an expansion that does not end. -/
  digits : Nat := Decimal.defaultDigits
  deriving Repr, DecidableEq

namespace Limits

/-- The largest value of each bound. -/
def caps : Limits where
  depth := Expr.maxHeight
  length := 64 * 1024
  digits := Decimal.maxDigits

/-- The bounds brought under their caps. -/
def capped (limits : Limits) : Limits where
  depth := min limits.depth caps.depth
  length := min limits.length caps.length
  digits := min limits.digits caps.digits

@[simp] theorem capped_capped (limits : Limits) : limits.capped.capped = limits.capped := by
  simp [capped]

end Limits

end AnswerDesk
