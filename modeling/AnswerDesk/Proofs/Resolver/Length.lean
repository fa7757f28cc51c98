import AnswerDesk.Proofs.Decimal.Canonical
import AnswerDesk.Proofs.Decimal.Places
import AnswerDesk.Proofs.Resolver.Repeat
import Mathlib.Data.Nat.Digits.Defs

/-!
# `AnswerDesk.Proofs.Resolver.Length`: how long an answer gets

The digits that are asked for bound the fraction of a number whose expansion does not end. A number
whose expansion ends is written in full, so they say nothing about it. What bounds both is that a
value has at most 4096 bits above and below the line.

* `exists_writeChars_eq`: the text of a number is a sign or none, a whole part, and a fraction or none.
* `length_whole_le_of_fits`: the whole part of a value has at most 1234 digits, since it is at most
  the numerator.
* `places_le_of_fits`: a value has at most 4095 places, since each of them takes a factor two or a
  factor five of the denominator.

`answers_have_bounded_length` is the main result. Each of the two bounds is reached by some value:
`10 ^ 1233` has 1234 digits before the point, and `1 / 2 ^ 4095` has 4095 behind it.
-/

set_option autoImplicit false

namespace AnswerDesk

open AnswerDesk.Expr (Fits)
open Decimal (IsDigits)

/-! ### The parts of a text -/

namespace Decimal

/-- The text of a scaled number is its whole part, and perhaps a fraction. There are at most as many
digits in the fraction as there are places. -/
theorem exists_unsignedText_eq (n s : Nat) :
    ∃ fraction, unsignedText n s = Nat.toDigits 10 (s / 10 ^ n) ++ fraction ∧
      (fraction = [] ∨ ∃ fs, fraction = '.' :: fs ∧ IsDigits fs ∧ fs.length ≤ n) := by
  unfold unsignedText
  simp only
  split
  · exact ⟨[], by simp, .inl rfl⟩
  · rename_i hne
    have hdigits := isFraction_dropFinalZeros (fun c hc => isDigit_of_mem_lastDigits hc) hne
    have hlength : (dropFinalZeros (lastDigits n s [])).length ≤ n := by
      have hle := (List.rdropWhile_prefix (· == '0') (lastDigits n s [])).length_le
      rwa [length_lastDigits] at hle
    exact ⟨_, rfl, .inr ⟨_, rfl, hdigits.digits, hlength⟩⟩

/-- The whole part of a number is the quotient of its numerator and its denominator. -/
theorem scaled_div_pow_places (r : Rat) (digits : Nat) :
    scaled r digits / 10 ^ places r digits = r.num.natAbs / r.den := by
  rw [scaled, Nat.div_div_eq_div_mul, Nat.mul_div_mul_right _ _ (by positivity)]

/-- **The parts of the text of a number.** -/
theorem exists_writeChars_eq (r : Rat) (digits : Nat) :
    ∃ sign fraction,
      writeChars r digits = sign ++ Nat.toDigits 10 (r.num.natAbs / r.den) ++ fraction ∧
      (sign = [] ∨ sign = ['-']) ∧
      (fraction = [] ∨ ∃ fs, fraction = '.' :: fs ∧ IsDigits fs ∧ fs.length ≤ places r digits) := by
  obtain ⟨fraction, htext, hfraction⟩ := exists_unsignedText_eq (places r digits) (scaled r digits)
  rw [scaled_div_pow_places] at htext
  rw [writeChars_eq, htext]
  split
  · exact ⟨['-'], fraction, rfl, .inr rfl, hfraction⟩
  · exact ⟨[], fraction, rfl, .inl rfl, hfraction⟩

end Decimal

/-! ### The parts of a value -/

/-- Numbers of 4096 bits have at most 1234 digits. -/
theorem two_pow_le_ten_pow : 2 ^ 4096 ≤ 10 ^ 1234 := by decide +kernel

/-- A value has at most 1234 digits before the point. -/
theorem length_whole_le_of_fits {v : Rat} (h : Fits v) :
    (Nat.toDigits 10 (v.num.natAbs / v.den)).length ≤ 1234 := by
  have hle : v.num.natAbs / v.den ≤ v.num.natAbs := Nat.div_le_self _ _
  have hlt : v.num.natAbs / v.den < 10 ^ 1234 := (hle.trans_lt h.1).trans_le two_pow_le_ten_pow
  exact Nat.toDigits_length 10 _ 1234 (by decide) hlt

/-- A value has at most 4095 places, whatever number of digits is asked for. -/
theorem places_le_of_fits {v : Rat} (h : Fits v) (digits : Nat) :
    Decimal.places v digits ≤ 4095 := by
  unfold Decimal.places
  cases hplaces : Decimal.exactPlaces? v.den with
  | none => exact (min_le_right digits Decimal.maxDigits).trans (by decide)
  | some k =>
      have hk : k < 4096 := Decimal.lt_of_exactPlaces?_of_lt v.den_pos hplaces h.2
      exact Nat.le_of_lt_succ hk

/-- The text of a value has at most 1234 digits before the point and at most 4095 behind it. -/
theorem exists_toList_write_eq {v : Rat} (h : Fits v) (digits : Nat) :
    ∃ sign whole fraction, (Decimal.write v digits).toList = sign ++ whole ++ fraction ∧
      (sign = [] ∨ sign = ['-']) ∧ IsDigits whole ∧ whole.length ≤ 1234 ∧
      (fraction = [] ∨ ∃ fs, fraction = '.' :: fs ∧ IsDigits fs ∧ fs.length ≤ 4095) := by
  obtain ⟨sign, fraction, htext, hsign, hfraction⟩ := Decimal.exists_writeChars_eq v digits
  refine ⟨sign, _, fraction, by rw [Decimal.toList_write, htext], hsign,
    Decimal.isDigits_toDigits _, length_whole_le_of_fits h, ?_⟩
  rcases hfraction with hnone | ⟨fs, hfs, hdigits, hlength⟩
  · exact .inl hnone
  · exact .inr ⟨fs, hfs, hdigits, hlength.trans (places_le_of_fits h digits)⟩

/-- The sign and the point come to the digits. -/
theorem length_write_le_of_fits {v : Rat} (h : Fits v) (digits : Nat) :
    (Decimal.write v digits).toList.length ≤ 5331 := by
  obtain ⟨sign, whole, fraction, htext, hsign, -, hwhole, hfraction⟩ :=
    exists_toList_write_eq h digits
  have hone : sign.length ≤ 1 := by
    rcases hsign with rfl | rfl <;> simp
  have hpoint : fraction.length ≤ 4096 := by
    rcases hfraction with rfl | ⟨fs, rfl, -, hlength⟩
    · simp
    · rw [List.length_cons]
      omega
  rw [htext, List.length_append, List.length_append]
  omega

/-- **Answers have a bounded length.** Let a calculation have a value. Its text, whatever number of
digits is asked for, has at most 1234 digits before the point and at most 4095 behind it. With the
sign and the point these are at most 5331 characters. That holds of expansions that end, which are
written in full, as well as of those that are cut. So no answer that is calculated is longer, whatever
the question and the limits. -/
theorem answers_have_bounded_length :
    (∀ (e : Expr) (v : Rat) (digits : Nat), e.evaluate = .ok v →
      (∃ sign whole fraction, (Decimal.write v digits).toList = sign ++ whole ++ fraction ∧
        (sign = [] ∨ sign = ['-']) ∧ IsDigits whole ∧ whole.length ≤ 1234 ∧
        (fraction = [] ∨ ∃ fs, fraction = '.' :: fs ∧ IsDigits fs ∧ fs.length ≤ 4095)) ∧
      (Decimal.write v digits).toList.length ≤ 5331) ∧
    (∀ (r : Resolver) (question a : String),
      r.lookup (String.ofList (Text.lowercase (Text.trim question.toList))) = none →
      r.resolve question = .ok a → a.toList.length ≤ 5331) := by
  constructor
  · intro e v digits hv
    obtain ⟨hfits, -⟩ := fits_of_evaluate hv
    exact ⟨exists_toList_write_eq hfits digits, length_write_le_of_fits hfits digits⟩
  · intro r question a hmiss ha
    obtain ⟨tokens, e, v, -, hv, rfl⟩ :=
      Calculation.exists_evaluate_of_answer (Resolver.answer_of_resolve_ok hmiss ha)
    exact length_write_le_of_fits (fits_of_evaluate hv).1 r.limits.digits

/-- The fraction of `-1 / 2 ^ 4095` is as long as a fraction gets, although no digit is asked for.
Asked for no digit, the desk writes one eighth with three. -/
theorem longest_fraction_fits :
    let e : Expr := .negate (.binary .div (.literal 1) (.literal (2 ^ 4095)))
    let r : Resolver := ⟨fun _ => none, { digits := 0 }⟩
    e.evaluate = .ok (-1 / 2 ^ 4095) ∧ Decimal.places (-1 / 2 ^ 4095) 0 = 4095 ∧
      (Decimal.write (-1 / 2 ^ 4095) 0).toList.length ≤ 5331 ∧
      r.resolve " 1 / 8" = .ok "0.125" ∧ "0.125".toList.length ≤ 5331 := by
  intro e r
  have hv : e.evaluate = .ok (-1 / 2 ^ 4095) := by decide +kernel
  have ha : r.resolve " 1 / 8" = .ok "0.125" := by decide +kernel
  obtain ⟨hvalue, hanswer⟩ := answers_have_bounded_length
  exact ⟨hv, by decide +kernel, (hvalue e _ 0 hv).2, ha, hanswer r " 1 / 8" "0.125" rfl ha⟩

end AnswerDesk
