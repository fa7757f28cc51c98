/-!
# `AnswerDesk.Decimal.Writer`: the decimal text of a rational number

A number whose decimal expansion ends is written exactly, however many digits
that takes. Any other number is cut, not rounded, after a given number of digits.
In both cases no zero is written at the end of the fraction, no point without a
fraction, and no sign before zero.

The expansion of a number ends exactly when its denominator, in lowest terms,
has no prime factor but two and five. `exactPlaces?` finds out, and tells how many
digits the fraction then has.

The number of places is a natural number here. A writer that counts them in 32 bits agrees below
`2 ^ 32` places, and the numbers that calculations give have at most 4095.
-/

set_option autoImplicit false

namespace AnswerDesk.Decimal

/-- The number of digits after the point that is used unless another is asked for. -/
def defaultDigits : Nat := 20

/-- No more digits than these are written of a fraction that does not end. -/
def maxDigits : Nat := 200

/-- Divides `n` by `p` as long as it goes; `count` goes up at each division. -/
def stripFactor (p count n : Nat) : Nat × Nat :=
  if 1 < p ∧ 0 < n ∧ n % p = 0 then stripFactor p (count + 1) (n / p) else (count, n)
termination_by n
decreasing_by
  rename_i h
  exact Nat.div_lt_self h.2.1 h.1

/-- The number of digits after the point in the expansion of a fraction with this
denominator in lowest terms, if the expansion ends. -/
def exactPlaces? (den : Nat) : Option Nat :=
  let (twos, odd) := stripFactor 2 0 den
  let (fives, rest) := stripFactor 5 0 odd
  if rest = 1 then some (max twos fives) else none

/-- The number of digits after the point that are worked out for `r`. -/
def places (r : Rat) (digits : Nat) : Nat :=
  (exactPlaces? r.den).getD (min digits maxDigits)

/-- The last `count` digits of `n`, zeros in front included, before `out`. -/
def lastDigits : (count n : Nat) → (out : List Char) → List Char
  | 0, _, out => out
  | count + 1, n, out => lastDigits count (n / 10) ((n % 10).digitChar :: out)

/-- Without the zeros at the end. -/
def dropFinalZeros (digits : List Char) : List Char :=
  (digits.reverse.dropWhile (· == '0')).reverse

/-- The text of `scaled / 10 ^ places`. -/
def unsignedText (places scaled : Nat) : List Char :=
  let whole := Nat.toDigits 10 (scaled / Nat.pow 10 places)
  match dropFinalZeros (lastDigits places scaled []) with
  | [] => whole
  | fraction => whole ++ '.' :: fraction

/-- The characters of the decimal text of `r`. -/
def writeChars (r : Rat) (digits : Nat) : List Char :=
  let n := places r digits
  let text := unsignedText n (r.num.natAbs * Nat.pow 10 n / r.den)
  if r.num < 0 ∧ text ≠ ['0'] then '-' :: text else text

/-- The decimal text of `r`: exact if its expansion ends, else with at most `digits`
digits after the point. -/
def write (r : Rat) (digits : Nat) : String :=
  String.ofList (writeChars r digits)

end AnswerDesk.Decimal
