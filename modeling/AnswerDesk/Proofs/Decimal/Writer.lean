import AnswerDesk.Decimal.Writer
import AnswerDesk.Proofs.Decimal.Numeral
import Mathlib.Data.List.DropRight
import Mathlib.Data.Nat.Prime.Basic
import Mathlib.Tactic.Linarith

/-!
# `AnswerDesk.Proofs.Decimal.Writer`: what written numbers denote

The writer decides how many digits a fraction has (`exactPlaces?`), scales the number to a
whole one, and lays its digits out around a point (`unsignedText`).

* `exactPlaces?_eq_some_iff`: the number of places is the least exponent of a power of ten
  that the denominator divides, and `exactPlaces?_eq_none_iff` says that there is none
  otherwise. The two loops split off the factors two and five, and what is left over is
  coprime to every power of ten.
* `denotes_unsignedText`: the text of a scaled number is a numeral, and denotes the number
  divided by the scale. The zeros that are dropped at its end change nothing.
* `denotes_writeChars`: a number that is not negative and whose expansion ends is written
  as a numeral that denotes it, whatever number of digits is asked for.
-/

set_option autoImplicit false

namespace AnswerDesk.Decimal

/-! ### The number of places -/

/-- The loop splits `n` into a power of `p`, whose exponent it adds to the count, and a
factor that `p` does not divide. -/
theorem exists_stripFactor_eq {p : Nat} (hp : 1 < p) (count n : Nat) (hn : 0 < n) :
    ∃ k rest, stripFactor p count n = (count + k, rest) ∧ n = p ^ k * rest ∧ ¬ p ∣ rest := by
  fun_induction stripFactor p count n with
  | case1 count n h ih =>
      have hdvd : p ∣ n := Nat.dvd_of_mod_eq_zero h.2.2
      have hpos : 0 < n / p := Nat.div_pos (Nat.le_of_dvd hn hdvd) (by omega)
      obtain ⟨k, rest, heq, hsplit, hrest⟩ := ih hpos
      refine ⟨k + 1, rest, by rw [heq]; simp; omega, ?_, hrest⟩
      calc n = p * (n / p) := (Nat.mul_div_cancel' hdvd).symm
        _ = p * (p ^ k * rest) := by rw [← hsplit]
        _ = p ^ (k + 1) * rest := by ring
  | case2 count n h =>
      refine ⟨0, n, rfl, by simp, fun hdvd => h ⟨hp, hn, Nat.mod_eq_zero_of_dvd hdvd⟩⟩

/-- A denominator without other factors than two and five divides the powers of ten from
the larger exponent on. -/
theorem two_pow_mul_five_pow_dvd_iff (a b j : Nat) :
    2 ^ a * 5 ^ b ∣ 10 ^ j ↔ max a b ≤ j := by
  have hten : (10 : Nat) ^ j = 2 ^ j * 5 ^ j := by rw [← Nat.mul_pow]
  have htwo : Nat.Coprime (2 ^ a) (5 ^ j) := Nat.Coprime.pow _ _ (by decide)
  have hfive : Nat.Coprime (5 ^ b) (2 ^ j) := Nat.Coprime.pow _ _ (by decide)
  rw [hten]
  constructor
  · intro h
    have ha : 2 ^ a ∣ 2 ^ j := htwo.dvd_of_dvd_mul_right (dvd_of_mul_right_dvd h)
    have hb : 5 ^ b ∣ 5 ^ j := hfive.dvd_of_dvd_mul_left (dvd_of_mul_left_dvd h)
    exact max_le ((Nat.pow_dvd_pow_iff_le_right (by decide)).mp ha)
      ((Nat.pow_dvd_pow_iff_le_right (by decide)).mp hb)
  · intro h
    exact Nat.mul_dvd_mul (Nat.pow_dvd_pow 2 (by omega)) (Nat.pow_dvd_pow 5 (by omega))

/-- The two loops split the denominator into a power of two, a power of five, and a factor
that neither divides. -/
theorem exists_stripFactor_split {den : Nat} (hden : 0 < den) :
    ∃ a odd b rest, stripFactor 2 0 den = (a, odd) ∧ 0 < odd ∧ stripFactor 5 0 odd = (b, rest) ∧
      den = 2 ^ a * 5 ^ b * rest ∧ ¬ 2 ∣ rest ∧ ¬ 5 ∣ rest := by
  obtain ⟨a, odd, hodd, hden_eq, htwo⟩ :=
    exists_stripFactor_eq (p := 2) (by decide) 0 den hden
  have hpos : 0 < odd := Nat.pos_of_ne_zero fun h => htwo (h ▸ Nat.dvd_zero 2)
  obtain ⟨b, rest, hrest, hodd_eq, hfive⟩ :=
    exists_stripFactor_eq (p := 5) (by decide) 0 odd hpos
  rw [Nat.zero_add] at hodd hrest
  refine ⟨a, odd, b, rest, hodd, hpos, hrest, ?_,
    fun h => htwo (hodd_eq ▸ Dvd.dvd.mul_left h _), hfive⟩
  rw [hden_eq, hodd_eq, Nat.mul_assoc]

/-- There are places if nothing but one is left of the denominator. -/
theorem exists_split_and_exactPlaces?_eq {den : Nat} (hden : 0 < den) :
    ∃ a b rest, den = 2 ^ a * 5 ^ b * rest ∧ ¬ 2 ∣ rest ∧ ¬ 5 ∣ rest ∧
      exactPlaces? den = if rest = 1 then some (max a b) else none := by
  obtain ⟨a, odd, b, rest, hodd, -, hrest, hsplit, htwo, hfive⟩ := exists_stripFactor_split hden
  exact ⟨a, b, rest, hsplit, htwo, hfive, by simp [exactPlaces?, hodd, hrest]⟩

/-- What the places say about the denominator, in both cases: which powers of ten it
divides. -/
theorem exactPlaces?_spec {den : Nat} (hden : 0 < den) :
    (∃ k, exactPlaces? den = some k ∧ ∀ j, den ∣ 10 ^ j ↔ k ≤ j) ∨
      (exactPlaces? den = none ∧ ∀ j, ¬ den ∣ 10 ^ j) := by
  obtain ⟨a, b, rest, hsplit, htwo, hfive, hplaces⟩ := exists_split_and_exactPlaces?_eq hden
  -- What is left over is coprime to ten, so unless it is one it divides no power of ten.
  by_cases h1 : rest = 1
  · left
    refine ⟨max a b, by rw [hplaces, if_pos h1], fun j => ?_⟩
    rw [hsplit, h1, Nat.mul_one, two_pow_mul_five_pow_dvd_iff]
  · right
    refine ⟨by rw [hplaces, if_neg h1], fun j hj => h1 ?_⟩
    have hcoprime : Nat.Coprime rest (10 ^ j) := by
      refine Nat.Coprime.pow_right j ?_
      show Nat.Coprime rest (2 * 5)
      exact Nat.Coprime.mul_right
        ((Nat.Prime.coprime_iff_not_dvd Nat.prime_two).mpr htwo).symm
        ((Nat.Prime.coprime_iff_not_dvd Nat.prime_five).mpr hfive).symm
    rw [hsplit] at hj
    exact hcoprime.eq_one_of_dvd (dvd_of_mul_left_dvd hj)

/-- The places are the least exponent of a power of ten that the denominator divides. -/
theorem exactPlaces?_eq_some_iff {den : Nat} (hden : 0 < den) {k : Nat} :
    exactPlaces? den = some k ↔ ∀ j, den ∣ 10 ^ j ↔ k ≤ j := by
  obtain ⟨k', hk', hdvd⟩ | ⟨hnone, hdvd⟩ := exactPlaces?_spec hden
  · rw [hk', Option.some.injEq]
    constructor
    · rintro rfl
      exact hdvd
    · intro h
      have h1 : k ≤ k' := (h k').mp ((hdvd k').mpr (Nat.le_refl k'))
      have h2 : k' ≤ k := (hdvd k).mp ((h k).mpr (Nat.le_refl k))
      omega
  · rw [hnone]
    constructor
    · intro h
      cases h
    · intro h
      exact absurd ((h k).mpr (Nat.le_refl k)) (hdvd k)

/-- There are no places when the denominator divides no power of ten. -/
theorem exactPlaces?_eq_none_iff {den : Nat} (hden : 0 < den) :
    exactPlaces? den = none ↔ ∀ j, ¬ den ∣ 10 ^ j := by
  obtain ⟨k, hk, hdvd⟩ | ⟨hnone, hdvd⟩ := exactPlaces?_spec hden
  · rw [hk]
    constructor
    · intro h
      cases h
    · intro h
      exact absurd ((hdvd k).mpr (Nat.le_refl k)) (h k)
  · simp [hnone, hdvd]

/-- An expansion that ends is written with as many places as it has, whatever number of
digits is asked for. -/
theorem den_dvd_pow_places {r : Rat} (h : Terminating r) (digits : Nat) :
    r.den ∣ 10 ^ places r digits := by
  obtain ⟨j, hj⟩ := h
  obtain ⟨k, hk, hdvd⟩ | ⟨_, hdvd⟩ := exactPlaces?_spec r.den_pos
  · rw [places, hk]
    exact (hdvd k).mpr (Nat.le_refl k)
  · exact absurd hj (hdvd j)

/-- Of an expansion that does not end, as many places are worked out as are asked for, up to
the largest number of them. -/
theorem places_of_not_terminating {r : Rat} (h : ¬ Terminating r) (digits : Nat) :
    places r digits = min digits maxDigits := by
  have hnone : exactPlaces? r.den = none := by
    rw [exactPlaces?_eq_none_iff r.den_pos]
    exact fun j hj => h ⟨j, hj⟩
  rw [places, hnone, Option.getD_none]

/-! ### The digits of a scaled number -/

theorem lastDigits_eq_append (count n : Nat) (out : List Char) :
    lastDigits count n out = lastDigits count n [] ++ out := by
  induction count generalizing n out with
  | zero => rfl
  | succ count ih =>
      rw [lastDigits, lastDigits, ih _ (_ :: out), ih _ [_], List.append_assoc]
      rfl

/-- The last digits of `n` come one at a time, the last one last. -/
theorem lastDigits_succ (count n : Nat) :
    lastDigits (count + 1) n [] = lastDigits count (n / 10) [] ++ [(n % 10).digitChar] := by
  rw [lastDigits, lastDigits_eq_append]

@[simp] theorem length_lastDigits (count n : Nat) : (lastDigits count n []).length = count := by
  induction count generalizing n with
  | zero => rfl
  | succ count ih => rw [lastDigits_succ, List.length_append, ih]; rfl

theorem isDigit_of_mem_lastDigits {count n : Nat} {c : Char}
    (hc : c ∈ lastDigits count n []) : c.isDigit = true := by
  induction count generalizing n with
  | zero => cases hc
  | succ count ih =>
      rw [lastDigits_succ] at hc
      rcases List.mem_append.mp hc with hc | hc
      · exact ih hc
      · rw [List.mem_singleton.mp hc, Nat.isDigit_digitChar]
        exact decide_eq_true (Nat.mod_lt n (by decide))

theorem digitsValue_digitChar {d : Nat} (hd : d < 10) : digitsValue [d.digitChar] = d := by
  simp [digitsValue, Nat.ofDigitChars_cons_digitChar_of_lt_ten hd]

/-- The last digits of `n` denote what is left of `n` below that power of ten. -/
theorem digitsValue_lastDigits (count n : Nat) :
    digitsValue (lastDigits count n []) = n % 10 ^ count := by
  induction count generalizing n with
  | zero => simp [lastDigits, digitsValue, Nat.mod_one]
  | succ count ih =>
      -- `n % 10 ^ (count + 1)` is `n % 10` and ten times what is left of `n / 10`.
      rw [lastDigits_succ, digitsValue_append, ih, digitsValue_digitChar (Nat.mod_lt n (by decide)),
        Nat.pow_succ', Nat.mod_mul]
      simp only [List.length_singleton, Nat.pow_one]
      omega

/-- Dropping the zeros at the end drops nothing else. -/
theorem exists_eq_dropFinalZeros_append (ds : List Char) :
    ∃ k, ds = dropFinalZeros ds ++ List.replicate k '0' := by
  have hzeros : ds.rtakeWhile (· == '0') = List.replicate (ds.rtakeWhile (· == '0')).length '0' :=
    List.eq_replicate_iff.mpr ⟨rfl, fun c hc => by simpa using List.mem_rtakeWhile_imp hc⟩
  refine ⟨(ds.rtakeWhile (· == '0')).length, ?_⟩
  rw [← hzeros]
  exact List.rdropWhile_append_rtakeWhile.symm

/-- Zeros at the end of a fraction do not change what it denotes. -/
theorem digitsValue_append_zeros (ds : List Char) (k : Nat) :
    (digitsValue (ds ++ List.replicate k '0') : Rat) / 10 ^ (ds ++ List.replicate k '0').length
      = digitsValue ds / 10 ^ ds.length := by
  have hzero : digitsValue (List.replicate k '0') = 0 := by
    simp [digitsValue, Nat.ofDigitChars_replicate_zero]
  rw [digitsValue_append, hzero, List.length_append, List.length_replicate]
  push_cast
  field_simp
  ring

/-- A scaled number is its whole part and the fraction below it. -/
theorem div_add_mod_div (scaled n : Nat) :
    (scaled : Rat) / 10 ^ n
      = (scaled / 10 ^ n : Nat) + ((scaled % 10 ^ n : Nat) : Rat) / 10 ^ n := by
  have h : ((10 ^ n * (scaled / 10 ^ n) + scaled % 10 ^ n : Nat) : Rat) = scaled := by
    rw [Nat.div_add_mod]
  push_cast at h
  field_simp
  linarith

theorem isDigits_toDigits (n : Nat) : IsDigits (Nat.toDigits 10 n) where
  ne_nil := Nat.toDigits_ne_nil
  isDigit _ hc := Nat.isDigit_of_mem_toDigits (by decide) (by decide) hc

theorem digitsValue_toDigits (n : Nat) : digitsValue (Nat.toDigits 10 n) = n :=
  Nat.ofDigitChars_ten_toDigits

/-- **The text of a scaled number is a numeral and denotes it.** -/
theorem denotes_unsignedText (n scaled : Nat) :
    Denotes (unsignedText n scaled) ((scaled : Rat) / 10 ^ n) := by
  obtain ⟨k, hk⟩ := exists_eq_dropFinalZeros_append (lastDigits n scaled [])
  have hfraction : ((scaled % 10 ^ n : Nat) : Rat) / 10 ^ n
      = digitsValue (dropFinalZeros (lastDigits n scaled []))
        / 10 ^ (dropFinalZeros (lastDigits n scaled [])).length := by
    rw [← digitsValue_append_zeros _ k, ← hk, digitsValue_lastDigits, length_lastDigits]
  rw [div_add_mod_div, hfraction]
  unfold unsignedText
  simp only
  split
  · rename_i hnil
    rw [hnil]
    have h := Denotes.whole (isDigits_toDigits (scaled / 10 ^ n))
    rw [digitsValue_toDigits] at h
    simpa [digitsValue] using h
  · rename_i fraction hne
    have hfs : IsDigits (dropFinalZeros (lastDigits n scaled [])) := by
      refine ⟨hne, fun c hc => ?_⟩
      have hmem : c ∈ lastDigits n scaled [] := by
        rw [hk]
        exact List.mem_append_left _ hc
      exact isDigit_of_mem_lastDigits hmem
    have h := Denotes.fraction (isDigits_toDigits (scaled / 10 ^ n)) hfs
    rwa [digitsValue_toDigits] at h

/-! ### What is written of a number -/

/-- The digits of the number before and behind the point, as one whole number. -/
def scaled (r : Rat) (digits : Nat) : Nat :=
  r.num.natAbs * 10 ^ places r digits / r.den

@[simp] theorem toList_write (r : Rat) (digits : Nat) :
    (write r digits).toList = writeChars r digits := by
  rw [write, String.toList_ofList]

theorem writeChars_eq (r : Rat) (digits : Nat) :
    writeChars r digits =
      if r.num < 0 ∧ unsignedText (places r digits) (scaled r digits) ≠ ['0'] then
        '-' :: unsignedText (places r digits) (scaled r digits)
      else unsignedText (places r digits) (scaled r digits) := rfl

/-- The size of a number, in lowest terms. -/
theorem abs_eq_natAbs_div_den (r : Rat) : |r| = (r.num.natAbs : Rat) / r.den := by
  have hnatAbs : (r.num.natAbs : Rat) = |(r.num : Rat)| := by
    rw [← Int.cast_natCast, Int.natCast_natAbs, Int.cast_abs]
  conv_lhs => rw [← Rat.num_div_den r, abs_div, Nat.abs_cast]
  rw [hnatAbs]

/-- Nothing is lost of a number whose expansion ends. -/
theorem scaled_div_of_terminating {r : Rat} (h : Terminating r) (digits : Nat) :
    (scaled r digits : Rat) / 10 ^ places r digits = |r| := by
  obtain ⟨c, hc⟩ := den_dvd_pow_places h digits
  -- The scale is a multiple of the denominator, so the scaled number is whole.
  have hscaled : scaled r digits = r.num.natAbs * c := by
    rw [scaled, hc, Nat.mul_left_comm, Nat.mul_div_cancel_left _ r.den_pos]
  have hpow : (10 : Rat) ^ places r digits = r.den * c := by exact_mod_cast hc
  have hc0 : (c : Rat) ≠ 0 := by
    intro h0
    rw [h0, mul_zero] at hpow
    exact absurd hpow (by positivity)
  rw [abs_eq_natAbs_div_den, hscaled, hpow, Nat.cast_mul, mul_div_mul_right _ _ hc0]

/-- **A number that is not negative and whose expansion ends is written exactly**,
whatever number of digits is asked for. -/
theorem denotes_writeChars {r : Rat} (h0 : 0 ≤ r) (h : Terminating r) (digits : Nat) :
    Denotes (writeChars r digits) r := by
  have hnum : ¬ r.num < 0 := by have := Rat.num_nonneg.mpr h0; omega
  have htext := denotes_unsignedText (places r digits) (scaled r digits)
  rw [scaled_div_of_terminating h, abs_of_nonneg h0] at htext
  rwa [writeChars_eq, if_neg (by simp [hnum])]

end AnswerDesk.Decimal
