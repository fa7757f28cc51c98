/-!
# `AnswerDesk.Decimal.Numeral`: what an unsigned numeral denotes

A numeral is digits, or digits, a point and digits. `numeralValue?` gives the
exact rational number that it denotes, and refuses every other run of digits and
points: `12.05` is 1205 / 100, while `1.`, `1.2.3` and `.5` are no numerals.

The number of digits on either side of the point is a natural number here, without a bound. A
reader that counts the digits of the fraction in 32 bits agrees as long as there are fewer than
`2 ^ 32` of them, and no calculation that is accepted has more than 65536 characters.
-/

set_option autoImplicit false

namespace AnswerDesk.Decimal

/-- The characters that numerals are made of. -/
def isNumeralChar (c : Char) : Bool :=
  c.isDigit || c == '.'

/-- The number that a run of digits denotes in base ten. -/
def digitsValue (digits : List Char) : Nat :=
  Nat.ofDigitChars 10 digits 0

/-- The exact value of a numeral. Reading the digits without the point and dividing
by a power of ten keeps it exact. -/
def numeralValue? (run : List Char) : Option Rat :=
  let whole := run.takeWhile Char.isDigit
  match run.dropWhile Char.isDigit with
  | [] => if whole.isEmpty then none else some (mkRat (digitsValue whole) 1)
  | point :: fraction =>
    if point = '.' ∧ whole ≠ [] ∧ fraction ≠ [] ∧ fraction.all Char.isDigit then
      some (mkRat (digitsValue (whole ++ fraction)) (Nat.pow 10 fraction.length))
    else
      none

end AnswerDesk.Decimal
