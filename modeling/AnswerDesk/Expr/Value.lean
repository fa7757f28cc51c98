import AnswerDesk.Expr

/-!
# `AnswerDesk.Expr.Value`: working out a calculation

Values are exact rational numbers. They have no natural bound, so one is set: no
value on the way, that of a literal included, may have a numerator or a denominator
of more than `maxBits` bits in lowest terms.

A calculation is worked out in postorder, so of two failures the one further to the
left, or deeper, is reported. At one division the zero divisor comes before the size
of the result.
-/

set_option autoImplicit false

namespace AnswerDesk

/-- Why a calculation has no value. -/
inductive EvalError where
  | divisionByZero
  | overflow
  deriving Repr, DecidableEq

namespace Expr

/-- The largest number of bits of a numerator or a denominator. -/
def maxBits : Nat := 4096

/-- The number of binary digits of `n`, none for zero. -/
def bitLength (n : Nat) : Nat :=
  if n = 0 then 0 else n.log2 + 1

/-- The value, unless it is too large. -/
def bounded (v : Rat) : Except EvalError Rat :=
  if bitLength v.num.natAbs ≤ maxBits ∧ bitLength v.den ≤ maxBits then .ok v
  else .error .overflow

/-- The result of an operation, before its size is looked at. -/
def apply (op : Op) (a b : Rat) : Except EvalError Rat :=
  match op with
  | .add => .ok (a + b)
  | .sub => .ok (a - b)
  | .mul => .ok (a * b)
  | .div => if b = 0 then .error .divisionByZero else .ok (a / b)

/-- The exact value of a calculation. -/
def evaluate : Expr → Except EvalError Rat
  | .literal value => bounded value
  | .negate e => do
    let v ← e.evaluate
    bounded (-v)
  | .binary op a b => do
    let x ← a.evaluate
    let y ← b.evaluate
    let v ← apply op x y
    bounded v

end Expr

def EvalError.message : EvalError → String
  | .divisionByZero => "division par zéro"
  | .overflow => s!"dépassement de capacité (plus de {Expr.maxBits} bits)"

end AnswerDesk
