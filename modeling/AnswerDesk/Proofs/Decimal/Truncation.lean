import AnswerDesk.Proofs.Decimal.Cut
import Mathlib.Data.Rat.Floor
import Mathlib.Data.Sign.Basic

/-!
# `AnswerDesk.Proofs.Decimal.Truncation`: cut toward zero

`cut r digits` is the number that the text of `r` denotes. Here it is given without the writer: it
is `r` itself if the expansion of `r` ends, and otherwise `r` cut toward zero behind the last
place. The text denotes nothing else (`DenotesSigned.unique`).

* `terminating_iff_forall_prime`: an expansion ends exactly when the denominator has no prime factor
  but two and five.
* `scaled_eq_floor`: the digits that are written are those of a floor. So what is left is at most the
  number in size, and falls short of it by less than one unit of the last place (`abs_lt_abs_cut`).

`write_denotes_truncation` is the main result.
-/

set_option autoImplicit false

namespace AnswerDesk.Decimal

/-! ### Expansions that end -/

/-- An expansion ends exactly when the denominator has no prime factor but two and five. -/
theorem terminating_iff_forall_prime {r : Rat} :
    Terminating r ↔ ∀ p, p.Prime → p ∣ r.den → p = 2 ∨ p = 5 := by
  constructor
  · rintro ⟨k, hk⟩ p hp hdvd
    -- A prime that divides a power of ten divides ten, so it is one of the two primes of ten.
    have hten : p ∣ 2 * 5 := hp.dvd_of_dvd_pow (hdvd.trans hk)
    rcases hp.dvd_mul.mp hten with h | h
    · exact .inl ((Nat.prime_dvd_prime_iff_eq hp Nat.prime_two).mp h)
    · exact .inr ((Nat.prime_dvd_prime_iff_eq hp Nat.prime_five).mp h)
  · intro h
    obtain ⟨a, b, rest, hsplit, htwo, hfive, -⟩ := exists_split_and_exactPlaces?_eq r.den_pos
    -- A prime factor of what is left over would be a factor of the denominator.
    have hone : rest = 1 := by
      rw [Nat.eq_one_iff_not_exists_prime_dvd]
      intro p hp hdvd
      have hden : p ∣ r.den := hsplit ▸ hdvd.mul_left _
      rcases h p hp hden with rfl | rfl
      · exact htwo hdvd
      · exact hfive hdvd
    refine ⟨max a b, ?_⟩
    rw [hsplit, hone, Nat.mul_one, two_pow_mul_five_pow_dvd_iff]

/-! ### The number that is left -/

/-- The digits before and behind the point are those of a floor. -/
theorem scaled_eq_floor (r : Rat) (digits : Nat) :
    (scaled r digits : Int) = ⌊|r| * 10 ^ places r digits⌋ := by
  have hfraction : |r| * 10 ^ places r digits
      = ((r.num.natAbs * 10 ^ places r digits : Nat) : Rat) / (r.den : Nat) := by
    rw [abs_eq_natAbs_div_den]
    push_cast
    ring
  rw [hfraction, Rat.floor_natCast_div_natCast, scaled]
  push_cast
  rfl

/-- What is left is the number cut toward zero behind the last place. -/
theorem cut_eq_truncation (r : Rat) (digits : Nat) :
    cut r digits
      = SignType.sign r * ⌊|r| * 10 ^ places r digits⌋ / 10 ^ places r digits := by
  rw [cut, ← scaled_eq_floor, Int.cast_natCast]
  -- A cut knows negative numbers from all others, the sign knows zero too.
  rcases lt_trichotomy r 0 with hneg | rfl | hpos
  · rw [if_pos (Rat.num_neg.mpr hneg), sign_neg hneg]
    simp [neg_div]
  · simp [scaled]
  · rw [if_neg (not_lt.mpr (Rat.num_nonneg.mpr hpos.le)), sign_pos hpos]
    simp

/-- What is left is at most the number in size. -/
theorem abs_cut_le (r : Rat) (digits : Nat) : |cut r digits| ≤ |r| := by
  rw [abs_cut, div_le_iff₀ (by positivity), ← Int.cast_natCast, scaled_eq_floor]
  exact Int.floor_le _

/-- What is left falls short of the number by less than one unit of the last place. -/
theorem abs_lt_abs_cut (r : Rat) (digits : Nat) :
    |r| < |cut r digits| + 1 / 10 ^ places r digits := by
  rw [abs_cut, ← add_div, lt_div_iff₀ (by positivity), ← Int.cast_natCast, scaled_eq_floor]
  exact Int.lt_floor_add_one _

/-- What is left never has the other sign. -/
theorem cut_mul_nonneg (r : Rat) (digits : Nat) : 0 ≤ cut r digits * r := by
  rw [cut]
  split
  · rename_i hneg
    exact mul_nonneg_of_nonpos_of_nonpos (neg_nonpos.mpr (by positivity)) (Rat.num_neg.mp hneg).le
  · rename_i hneg
    exact mul_nonneg (by positivity) (Rat.num_nonneg.mp (not_lt.mp hneg))

/-- **A number is written exactly, or cut toward zero.** The text of a number denotes one number in
decimal notation. It is the number itself, whatever number of digits is asked for, if the
denominator in lowest terms has no prime factor but two and five. Otherwise it is the number cut
toward zero behind as many digits as are asked for, but no more than 200. It is at most the number
in size, falls short of it by less than one unit of the last place, and never has the other sign. -/
theorem write_denotes_truncation (r : Rat) (digits : Nat) :
    ∃ w, (∀ u, DenotesSigned (write r digits).toList u ↔ u = w) ∧
      ((∀ p, p.Prime → p ∣ r.den → p = 2 ∨ p = 5) → w = r) ∧
      ((¬ ∀ p, p.Prime → p ∣ r.den → p = 2 ∨ p = 5) →
        w = SignType.sign r * ⌊|r| * 10 ^ min digits 200⌋ / 10 ^ min digits 200) ∧
      |w| ≤ |r| ∧ |r| < |w| + 1 / 10 ^ min digits 200 ∧ 0 ≤ w * r := by
  have htext := denotesSigned_writeChars r digits
  rw [toList_write]
  refine ⟨cut r digits, ?_, ?_, ?_, abs_cut_le r digits, ?_, cut_mul_nonneg r digits⟩
  · intro u
    constructor
    · intro hu
      exact hu.unique htext
    · intro hu
      rw [hu]
      exact htext
  · intro hprimes
    exact cut_of_terminating (terminating_iff_forall_prime.mpr hprimes) digits
  · intro hprimes
    have hplaces := places_of_not_terminating (mt terminating_iff_forall_prime.mp hprimes) digits
    rw [cut_eq_truncation, hplaces]
    rfl
  · -- An expansion that ends may have more places than are asked for, but then nothing is lost.
    by_cases hend : Terminating r
    · rw [cut_of_terminating hend]
      exact lt_add_of_pos_right _ (by positivity)
    · have hless := abs_lt_abs_cut r digits
      rwa [places_of_not_terminating hend] at hless

/-- The number `-22 / 7` is cut behind three digits, `1 / 8` is exact with one digit asked for. -/
theorem quotient_cut_and_eighth_exact :
    (¬ ∀ p, p.Prime → p ∣ (-22 / 7 : Rat).den → p = 2 ∨ p = 5) ∧
    write (-22 / 7) 3 = "-3.142" ∧ DenotesSigned "-3.142".toList (-1571 / 500) ∧
    (∀ p, p.Prime → p ∣ (1 / 8 : Rat).den → p = 2 ∨ p = 5) ∧
    write (1 / 8) 1 = "0.125" ∧ DenotesSigned "0.125".toList (1 / 8) := by
  have hquotient : ¬ ∀ p, p.Prime → p ∣ (-22 / 7 : Rat).den → p = 2 ∨ p = 5 := by
    intro h
    exact absurd (h 7 (by decide) (by decide +kernel)) (by decide)
  have heighth : ∀ p, p.Prime → p ∣ (1 / 8 : Rat).den → p = 2 ∨ p = 5 :=
    terminating_iff_forall_prime.mp ⟨3, by decide +kernel⟩
  have hwrite : write (-22 / 7) 3 = "-3.142" := by decide +kernel
  have hwrite' : write (1 / 8) 1 = "0.125" := by decide +kernel
  obtain ⟨w, hw, -, hcut, -⟩ := write_denotes_truncation (-22 / 7) 3
  obtain ⟨w', hw', hexact, -⟩ := write_denotes_truncation (1 / 8) 1
  rw [hwrite] at hw
  rw [hwrite'] at hw'
  refine ⟨hquotient, hwrite, (hw _).mpr ?_, heighth, hwrite', (hw' _).mpr (hexact heighth).symm⟩
  rw [hcut hquotient]
  decide +kernel

end AnswerDesk.Decimal
