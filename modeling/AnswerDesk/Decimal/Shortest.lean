/-!
# `AnswerDesk.Decimal.Shortest`: floats with the fewest digits

A float of 64 bits is a whole number of at most 53 bits times a power of two. A decimal
names the float that is nearest to it, so the float has a range of decimals that name it.
`Binary.shortest` is one of them with the fewest digits, and of these the nearest.

Everything is exact, in natural numbers. A number is tried against the range by comparing
products, and the range has its ends exactly when the whole number is even.
-/

set_option autoImplicit false

namespace AnswerDesk.Decimal

/-- A number `digits * 10 ^ exponent`. -/
structure Scientific where
  digits : Nat
  exponent : Int
  deriving Repr, DecidableEq

namespace Scientific

/-- The numerator and the denominator of the number. -/
def ratio (d : Scientific) : Nat × Nat :=
  (d.digits * Nat.pow 10 d.exponent.toNat, Nat.pow 10 (-d.exponent).toNat)

/-- The number with its point in place, and with a fraction in any case. -/
def positional (d : Scientific) : List Char :=
  let digits := Nat.toDigits 10 d.digits
  match d.exponent with
  | .ofNat e => digits ++ List.replicate e '0' ++ ['.', '0']
  | .negSucc e =>
    let places := e + 1
    let digits := List.replicate (places + 1 - digits.length) '0' ++ digits
    let split := digits.length - places
    digits.take split ++ '.' :: digits.drop split

end Scientific

/-- A positive float `whole * 2 ^ exponent`. -/
structure Binary where
  whole : Nat
  exponent : Int
  deriving Repr, DecidableEq

namespace Binary

/-- The bits of the whole number. -/
def bits : Nat := 53

/-- The least exponent. -/
def leastExponent : Int := -1074

/-- The quotient to the nearest, and to the even one if two are as near. -/
def roundedQuotient (n d : Nat) : Nat :=
  let q := n / d
  let r := n % d
  if 2 * r < d ∨ (2 * r = d ∧ q % 2 = 0) then q else q + 1

/-- The numerator and the denominator of `n / d` as a multiple of `2 ^ exponent`. -/
def scaled (n d : Nat) (exponent : Int) : Nat × Nat :=
  (n * Nat.pow 2 (-exponent).toNat, d * Nat.pow 2 exponent.toNat)

/-- The float nearest to a number that is not zero. -/
def nearest (x : Scientific) : Binary :=
  let (n, d) := x.ratio
  let guess : Int := max (n.log2 - d.log2 - bits) leastExponent
  let (a, b) := scaled n d guess
  let exponent := if Nat.pow 2 bits ≤ a / b then guess + 1 else guess
  let (a, b) := scaled n d exponent
  let whole := roundedQuotient a b
  if whole = Nat.pow 2 bits then ⟨Nat.pow 2 (bits - 1), exponent + 1⟩ else ⟨whole, exponent⟩

/-- The ends of the range of numbers that name the float, and the float itself, as
multiples of `2 ^ (exponent - 2)`. Below a power of two the next float is half as far. -/
def range (x : Binary) : Nat × Nat × Nat :=
  let isPower := x.whole = Nat.pow 2 (bits - 1) ∧ leastExponent < x.exponent
  (4 * x.whole - (if isPower then 1 else 2), 4 * x.whole, 4 * x.whole + 2)

/-- The number names the float. -/
def isNamedBy (x : Binary) (d : Scientific) : Bool :=
  let (n, m) := d.ratio
  let (a, b) := scaled n m (x.exponent - 2)
  let (low, _, high) := x.range
  (low * b < a || (x.whole % 2 = 0 && low * b = a)) &&
    (a < high * b || (x.whole % 2 = 0 && a = high * b))

/-- The two neighbours of the float among the multiples of `10 ^ exponent`, the nearer one
first, or the upper one if they are as near. -/
def neighbours (x : Binary) (exponent : Int) : List Scientific :=
  let (n, m) := Scientific.ratio ⟨1, exponent⟩
  let (b, a) := scaled n m x.exponent
  let below := x.whole * a / b
  let rest := x.whole * a % b
  if 2 * rest < b then [⟨below, exponent⟩, ⟨below + 1, exponent⟩]
  else [⟨below + 1, exponent⟩, ⟨below, exponent⟩]

/-- The largest exponent of a decimal digit that a float can have. -/
def largestExponent : Nat := 308

/-- The number of the exponents below it that are tried. The last digit that any float
needs is among them. -/
def exponentCount : Nat := 308 + 1 + 1074

/-- The number with the fewest digits that names the float. -/
def shortest (x : Binary) : Scientific :=
  let exponents := (List.range exponentCount).map fun (i : Nat) => (largestExponent : Int) - i
  let found := exponents.findSome? fun e =>
    (x.neighbours e).find? fun d => 0 < d.digits && x.isNamedBy d
  found.getD ⟨x.whole, 0⟩

end Binary

end AnswerDesk.Decimal
