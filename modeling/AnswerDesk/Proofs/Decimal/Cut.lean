import AnswerDesk.Proofs.Decimal.Writer

/-!
# `AnswerDesk.Proofs.Decimal.Cut`: the number that is written, and its only text

The text of a number need not denote that number: an expansion that does not end is cut.
`cut r digits` is the number that is left, and this file says what its text is.

* `denotesSigned_writeChars`: the text of `r` denotes `cut r digits`, with the sign in front
  of a numeral.
* `writeChars_cut`: the number that is left is written in the same way as `r`, whatever
  number of digits is asked for then. So a text that was written is the only one that is
  ever written for the number it denotes.

The second fact comes down to scaled numbers. The text of a scaled number depends on the
quotient alone (`unsignedText_eq_of_div_eq`): one more place adds a zero at the end, and
that zero is not written.
-/

set_option autoImplicit false

namespace AnswerDesk.Decimal

/-! ### The text of a scaled number -/

theorem dropFinalZeros_append_zero (ds : List Char) :
    dropFinalZeros (ds ++ ['0']) = dropFinalZeros ds := by
  simp [dropFinalZeros]

/-- One more place changes nothing. -/
theorem unsignedText_succ (n scaled : Nat) :
    unsignedText (n + 1) (scaled * 10) = unsignedText n scaled := by
  have hlast : lastDigits (n + 1) (scaled * 10) [] = lastDigits n scaled [] ++ ['0'] := by
    rw [lastDigits_succ, Nat.mul_div_cancel _ (by decide), Nat.mul_mod_left]
    rfl
  have hwhole : scaled * 10 / Nat.pow 10 (n + 1) = scaled / Nat.pow 10 n := by
    rw [Nat.pow_eq, Nat.pow_eq, Nat.pow_succ, Nat.mul_div_mul_right _ _ (by decide)]
  unfold unsignedText
  rw [hlast, dropFinalZeros_append_zero, hwhole]

theorem unsignedText_add (n k scaled : Nat) :
    unsignedText (n + k) (scaled * 10 ^ k) = unsignedText n scaled := by
  induction k with
  | zero => simp
  | succ k ih => rw [← ih, Nat.pow_succ, ← Nat.mul_assoc, ← Nat.add_assoc, unsignedText_succ]

/-- **Scaled numbers with one quotient have one text.** -/
theorem unsignedText_eq_of_div_eq {n m s t : Nat}
    (h : (s : Rat) / 10 ^ n = (t : Rat) / 10 ^ m) : unsignedText n s = unsignedText m t := by
  have hcross : s * 10 ^ m = t * 10 ^ n := by
    rw [div_eq_div_iff (by positivity) (by positivity)] at h
    exact_mod_cast h
  rw [← unsignedText_add n m s, ← unsignedText_add m n t, hcross, Nat.add_comm]

@[simp] theorem unsignedText_zero (n : Nat) : unsignedText n 0 = ['0'] := by
  rw [unsignedText_eq_of_div_eq (m := 0) (t := 0) (by simp)]
  rfl

/-! ### What is written of a number -/

/-- The number that is left when the expansion ends behind the last place. -/
def cut (r : Rat) (digits : Nat) : Rat :=
  if r.num < 0 then -((scaled r digits : Rat) / 10 ^ places r digits)
  else (scaled r digits : Rat) / 10 ^ places r digits

/-- The text is a numeral, or a minus sign and a numeral, and denotes the number. -/
inductive DenotesSigned : List Char → Rat → Prop
  | unsigned {run : List Char} {v : Rat} (h : Denotes run v) : DenotesSigned run v
  | negative {run : List Char} {v : Rat} (h : Denotes run v) : DenotesSigned ('-' :: run) (-v)

/-- A text denotes one number, with the sign in front of it. -/
theorem DenotesSigned.unique {cs : List Char} {v w : Rat} (hv : DenotesSigned cs v)
    (hw : DenotesSigned cs w) : v = w := by
  -- A numeral starts with a digit, so no text has a sign and has none.
  have hsign : ∀ {run : List Char} {x : Rat}, ¬ Denotes ('-' :: run) x := by
    intro run x h
    obtain ⟨c, cs, hcons, hc⟩ := h.exists_cons
    cases hcons
    exact absurd hc (by decide)
  cases hv with
  | unsigned hv =>
      cases hw with
      | unsigned hw => exact hv.unique hw
      | negative hw => exact absurd hv hsign
  | negative hv =>
      cases hw with
      | unsigned hw => exact absurd hw hsign
      | negative hw => rw [hv.unique hw]

/-- The text is that of zero only if nothing is left of the number. -/
theorem unsignedText_eq_zero_iff {n s : Nat} : unsignedText n s = ['0'] ↔ s = 0 := by
  constructor
  · intro h
    have hzero : Denotes ['0'] (0 : Nat) := .whole ⟨by simp, by simp⟩
    -- One text denotes one number.
    have htext := denotes_unsignedText n s
    rw [h] at htext
    simpa using htext.unique hzero
  · rintro rfl
    exact unsignedText_zero n

/-- **The text of a number denotes what is left of it.** -/
theorem denotesSigned_writeChars (r : Rat) (digits : Nat) :
    DenotesSigned (writeChars r digits) (cut r digits) := by
  have htext := denotes_unsignedText (places r digits) (scaled r digits)
  rw [writeChars_eq, cut]
  by_cases hneg : r.num < 0
  · by_cases hzero : scaled r digits = 0
    · -- Nothing is left, and zero has no sign.
      simp only [hzero, unsignedText_zero, ne_eq, not_true_eq_false, and_false, if_false] at *
      rw [if_pos hneg]
      simpa using DenotesSigned.unsigned htext
    · rw [if_pos ⟨hneg, by simpa [unsignedText_eq_zero_iff] using hzero⟩, if_pos hneg]
      exact .negative htext
  · rw [if_neg (by simp [hneg]), if_neg hneg]
    exact .unsigned htext

theorem cut_of_terminating {r : Rat} (h : Terminating r) (digits : Nat) : cut r digits = r := by
  rw [cut, scaled_div_of_terminating h]
  split
  · rename_i hneg
    rw [abs_of_neg (Rat.num_neg.mp hneg), neg_neg]
  · rename_i hneg
    rw [abs_of_nonneg (Rat.num_nonneg.mp (by omega))]

/-- What is left has no more places than were worked out. -/
theorem den_cut_dvd (r : Rat) (digits : Nat) : (cut r digits).den ∣ 10 ^ places r digits := by
  have hfraction : ((scaled r digits : Rat) / 10 ^ places r digits).den
      ∣ 10 ^ places r digits := by
    have h := Rat.den_dvd (scaled r digits) (10 ^ places r digits : Nat)
    rw [Rat.divInt_eq_div, Int.natCast_dvd_natCast] at h
    simpa using h
  rw [cut]
  split
  · simpa using hfraction
  · exact hfraction

theorem terminating_cut (r : Rat) (digits : Nat) : Terminating (cut r digits) :=
  ⟨_, den_cut_dvd r digits⟩

theorem abs_cut (r : Rat) (digits : Nat) :
    |cut r digits| = (scaled r digits : Rat) / 10 ^ places r digits := by
  rw [cut]
  split
  · rw [abs_neg, abs_of_nonneg (by positivity)]
  · rw [abs_of_nonneg (by positivity)]

/-- What is left is negative when the number is, unless nothing is left. -/
theorem cut_neg_iff {r : Rat} {digits : Nat} :
    cut r digits < 0 ↔ r < 0 ∧ scaled r digits ≠ 0 := by
  rw [cut]
  split
  · rename_i hneg
    rw [neg_lt_zero, div_pos_iff_of_pos_right (by positivity), Nat.cast_pos]
    simp [Rat.num_neg.mp hneg, Nat.pos_iff_ne_zero]
  · rename_i hneg
    have hpos : (0 : Rat) ≤ (scaled r digits : Rat) / 10 ^ places r digits := by positivity
    simp [mt Rat.num_neg.mpr hneg, hpos]

/-- **What is left of a number is written as the number was**, whatever number of digits is
asked for. -/
theorem writeChars_cut (r : Rat) (digits digits' : Nat) :
    writeChars (cut r digits) digits' = writeChars r digits := by
  have htext : unsignedText (places (cut r digits) digits') (scaled (cut r digits) digits')
      = unsignedText (places r digits) (scaled r digits) := by
    refine unsignedText_eq_of_div_eq ?_
    rw [scaled_div_of_terminating (terminating_cut r digits), abs_cut]
  rw [writeChars_eq, writeChars_eq, htext]
  congr 1
  simp [cut_neg_iff, unsignedText_eq_zero_iff]

end AnswerDesk.Decimal
