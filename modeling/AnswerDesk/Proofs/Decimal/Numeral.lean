import AnswerDesk.Decimal.Numeral
import AnswerDesk.Proofs.Text.Run
import Mathlib.Data.Rat.Lemmas
import Mathlib.Data.Rat.Cast.Order
import Mathlib.Tactic.FieldSimp
import Mathlib.Tactic.Positivity
import Mathlib.Tactic.Ring

/-!
# `AnswerDesk.Proofs.Decimal.Numeral`: numerals and what they denote

`Denotes run v` says that `run` is a numeral, and that it denotes `v`: digits denote a
whole number, and digits behind a point add that number divided by a power of ten.
`numeralValue?_eq_some_iff` says that the reader of numerals knows exactly these. It leaves
out the point and divides once, so the proof is one computation with fractions.

A numeral denotes a number that is not negative and whose expansion ends
(`Denotes.nonneg`, `Denotes.terminating`).
-/

set_option autoImplicit false

namespace AnswerDesk.Decimal

open Text (takeWhile_run dropWhile_run)

/-- The decimal expansion of the number ends: some power of ten makes it whole. -/
def Terminating (v : Rat) : Prop :=
  ∃ k, v.den ∣ 10 ^ k

/-- A run of at least one digit. -/
structure IsDigits (ds : List Char) : Prop where
  ne_nil : ds ≠ []
  isDigit : ∀ c ∈ ds, c.isDigit = true

/-- The run is a numeral and denotes the number. -/
inductive Denotes : List Char → Rat → Prop
  /-- Digits denote a whole number. -/
  | whole {ds : List Char} (hds : IsDigits ds) : Denotes ds (digitsValue ds)
  /-- Digits behind a point add a fraction. -/
  | fraction {ds fs : List Char} (hds : IsDigits ds) (hfs : IsDigits fs) :
      Denotes (ds ++ '.' :: fs) (digitsValue ds + digitsValue fs / 10 ^ fs.length)

/-! ### The numbers that digits denote -/

theorem digitsValue_append (ds fs : List Char) :
    digitsValue (ds ++ fs) = digitsValue ds * 10 ^ fs.length + digitsValue fs := by
  unfold digitsValue
  rw [Nat.ofDigitChars_append, Nat.ofDigitChars_eq_ofDigitChars_zero, Nat.mul_comm]

/-- Digits denote less than the power of ten with as many zeros. -/
theorem digitsValue_lt {ds : List Char} (hds : ∀ c ∈ ds, c.isDigit = true) :
    digitsValue ds < 10 ^ ds.length := by
  induction ds with
  | nil => simp [digitsValue]
  | cons c ds ih =>
      have hc : digitsValue [c] ≤ 9 := by
        have hrange : 48 ≤ c.toNat ∧ c.toNat ≤ 57 :=
          Char.isDigit_iff_toNat.mp (hds c (by simp))
        have hzero : '0'.toNat = 48 := rfl
        simp only [digitsValue, Nat.ofDigitChars_cons, Nat.ofDigitChars_nil, hzero]
        omega
      have hrest := ih fun x hx => hds x (by simp [hx])
      have hsplit : digitsValue (c :: ds) = digitsValue [c] * 10 ^ ds.length + digitsValue ds :=
        digitsValue_append [c] ds
      have hmul := Nat.mul_le_mul_right (10 ^ ds.length) hc
      rw [hsplit, List.length_cons, Nat.pow_succ]
      omega

/-- Reading the digits without the point, and dividing, is adding the fraction. -/
theorem mkRat_digitsValue_append (ds fs : List Char) :
    mkRat (digitsValue (ds ++ fs)) (10 ^ fs.length)
      = digitsValue ds + digitsValue fs / 10 ^ fs.length := by
  rw [Rat.mkRat_eq_div, digitsValue_append]
  push_cast
  field_simp

/-! ### The reader of numerals -/

theorem numeralValue?_digits {ds : List Char} (hds : IsDigits ds) :
    numeralValue? ds = some (digitsValue ds : Rat) := by
  have htake : ds.takeWhile Char.isDigit = ds :=
    List.takeWhile_eq_self_iff.mpr hds.isDigit
  have hdrop : ds.dropWhile Char.isDigit = [] :=
    List.dropWhile_eq_nil_iff.mpr hds.isDigit
  simp [numeralValue?, htake, hdrop, hds.ne_nil, Rat.mkRat_one]

theorem numeralValue?_fraction {ds fs : List Char} (hds : IsDigits ds) (hfs : IsDigits fs) :
    numeralValue? (ds ++ '.' :: fs)
      = some (digitsValue ds + digitsValue fs / 10 ^ fs.length : Rat) := by
  have hpoint : ∀ c ∈ ('.' :: fs).head?, c.isDigit = false := by simp
  have htake := takeWhile_run hds.isDigit hpoint
  have hdrop := dropWhile_run hds.isDigit hpoint
  have hall : fs.all Char.isDigit = true := by simpa using hfs.isDigit
  simp only [numeralValue?, htake, hdrop, hds.ne_nil, hfs.ne_nil, hall, ne_eq, not_false_eq_true,
    and_self, if_true, Nat.pow_eq, mkRat_digitsValue_append]

/-- **The reader of numerals knows the numerals**, and reads the number that they
denote. -/
theorem numeralValue?_eq_some_iff {run : List Char} {v : Rat} :
    numeralValue? run = some v ↔ Denotes run v := by
  constructor
  · intro h
    have hrun := List.takeWhile_append_dropWhile (p := Char.isDigit) (l := run)
    have hds : ∀ c ∈ run.takeWhile Char.isDigit, c.isDigit = true := fun c hc =>
      List.mem_takeWhile_imp hc
    simp only [numeralValue?] at h
    -- The digits in front are a run in any case. What stands behind them is nothing, or it
    -- has to be a point and more digits.
    split at h
    · rename_i hdrop
      split at h
      · cases h
      · rename_i hne
        cases h
        rw [hdrop, List.append_nil] at hrun
        rw [hrun] at hds hne ⊢
        rw [Rat.mkRat_one]
        exact .whole ⟨by simpa using hne, hds⟩
    · rename_i point fs hdrop
      split at h
      · rename_i hcond
        obtain ⟨rfl, hne, hfs, hall⟩ := hcond
        cases h
        have hden := Denotes.fraction ⟨hne, hds⟩ ⟨hfs, by simpa using hall⟩
        rw [hdrop] at hrun
        rwa [hrun, ← mkRat_digitsValue_append] at hden
      · cases h
  · intro h
    cases h with
    | whole hds => exact numeralValue?_digits hds
    | fraction hds hfs => exact numeralValue?_fraction hds hfs

/-! ### What numerals look like -/

/-- A numeral starts with a digit. -/
theorem Denotes.exists_cons {run : List Char} {v : Rat} (h : Denotes run v) :
    ∃ c cs, run = c :: cs ∧ c.isDigit = true := by
  have hfirst : ∀ {ds : List Char}, IsDigits ds →
      ∃ c cs, ds = c :: cs ∧ c.isDigit = true := by
    intro ds hds
    obtain ⟨c, cs, rfl⟩ := List.exists_cons_of_ne_nil hds.ne_nil
    exact ⟨c, cs, rfl, hds.isDigit c (by simp)⟩
  cases h with
  | whole hds => exact hfirst hds
  | fraction hds hfs =>
      obtain ⟨c, cs, rfl, hc⟩ := hfirst hds
      exact ⟨c, cs ++ '.' :: _, rfl, hc⟩

/-- A numeral consists of digits and points. -/
theorem Denotes.isNumeralChar {run : List Char} {v : Rat} (h : Denotes run v) :
    ∀ c ∈ run, isNumeralChar c = true := by
  intro c hc
  cases h with
  | whole hds => simp [Decimal.isNumeralChar, hds.isDigit c hc]
  | fraction hds hfs =>
      rcases List.mem_append.mp hc with hc | hc
      · simp [Decimal.isNumeralChar, hds.isDigit c hc]
      · rcases List.mem_cons.mp hc with rfl | hc
        · rfl
        · simp [Decimal.isNumeralChar, hfs.isDigit c hc]

/-- What a numeral denotes is not negative. -/
theorem Denotes.nonneg {run : List Char} {v : Rat} (h : Denotes run v) : 0 ≤ v := by
  cases h with
  | whole hds => positivity
  | fraction hds hfs => positivity

/-- A numeral denotes one number. -/
theorem Denotes.unique {run : List Char} {v w : Rat} (hv : Denotes run v) (hw : Denotes run w) :
    v = w := by
  have hread := numeralValue?_eq_some_iff.mpr hv
  rw [numeralValue?_eq_some_iff.mpr hw] at hread
  exact (Option.some.inj hread).symm

/-- The expansion of what a numeral denotes ends. -/
theorem Denotes.terminating {run : List Char} {v : Rat} (h : Denotes run v) :
    Terminating v := by
  cases h with
  | whole hds => exact ⟨0, by simp⟩
  | @fraction ds fs hds hfs =>
      -- As one fraction it has a power of ten below the line, before it is reduced.
      refine ⟨fs.length, ?_⟩
      rw [← mkRat_digitsValue_append, Rat.mkRat_eq_divInt]
      exact_mod_cast Rat.den_dvd (digitsValue (ds ++ fs)) ((10 ^ fs.length : Nat) : Int)

end AnswerDesk.Decimal
