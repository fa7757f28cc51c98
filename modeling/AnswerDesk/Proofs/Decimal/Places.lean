import AnswerDesk.Proofs.Decimal.Writer
import Mathlib.Order.Bounds.Basic

/-!
# `AnswerDesk.Proofs.Decimal.Places`: the search for the number of places

The number of places of an expansion is searched for by dividing: the denominator by two as long as
that leaves no remainder, and then by five. `stripFactor` looks whether the number is positive
before each division. A bare loop does not, and `Strips` is its run: it goes on while the remainder
is zero, and looks at nothing else.

* `strips_iff`: the bare loop stops for every number but zero, which it would divide forever. It stops
  with the count and the number that `stripFactor` returns.
* `exactPlaces?_eq_some_iff_isLeast`: the number of places is the least exponent of a power of ten
  that the denominator divides. It is less than the number of bits of the denominator
  (`lt_of_exactPlaces?_of_lt`).

`places_are_least_exponent` is the main result.
-/

set_option autoImplicit false

namespace AnswerDesk.Decimal

/-! ### The bare loop -/

/-- A run of the loop that divides a number by `p` while the remainder is zero, and counts the
divisions. The run leads from the count and the number that the loop starts with to those that it
stops with, so a loop that goes on forever has none. -/
inductive Strips (p : Nat) : (count n count' rest : Nat) → Prop
  /-- There is a remainder. -/
  | stop {count n : Nat} (h : n % p ≠ 0) : Strips p count n count n
  /-- There is none, and the loop goes on with the quotient. -/
  | divide {count n count' rest : Nat} (h : n % p = 0)
      (hrun : Strips p (count + 1) (n / p) count' rest) : Strips p count n count' rest

/-- The loop does not stop at zero: the remainder is zero, and so is the quotient. -/
theorem Strips.pos {p count n count' rest : Nat} (h : Strips p count n count' rest) : 0 < n := by
  -- Each division goes from zero to zero, so the loop would have to stop at zero in the end.
  induction h with
  | @stop count n h =>
      refine Nat.pos_of_ne_zero ?_
      rintro rfl
      exact h (Nat.zero_mod p)
  | @divide count n count' rest _ _ ih =>
      refine Nat.pos_of_ne_zero ?_
      rintro rfl
      rw [Nat.zero_div] at ih
      omega

/-- The loop can stop in one way only. -/
theorem Strips.unique {p count n c r c' r' : Nat} (h : Strips p count n c r)
    (h' : Strips p count n c' r') : c = c' ∧ r = r' := by
  induction h with
  | stop hrem =>
      cases h' with
      | stop => exact ⟨rfl, rfl⟩
      | divide hrem' => exact absurd hrem' hrem
  | divide hrem _ ih =>
      cases h' with
      | stop hrem' => exact absurd hrem hrem'
      | divide _ hrun' => exact ih hrun'

/-- On a positive number the loop stops, and `stripFactor` finds where. The number gets smaller
with each division, and stays positive. -/
theorem strips_stripFactor {p : Nat} (hp : 1 < p) (count n : Nat) (hn : 0 < n) :
    Strips p count n (stripFactor p count n).1 (stripFactor p count n).2 := by
  fun_induction stripFactor p count n with
  | case1 count n h ih =>
      have hle : p ≤ n := Nat.le_of_dvd hn (Nat.dvd_of_mod_eq_zero h.2.2)
      exact .divide h.2.2 (ih (Nat.div_pos hle (by omega)))
  | case2 count n h => exact .stop fun hrem => h ⟨hp, hn, hrem⟩

/-- **The loop stops for every number but zero**, and it stops with what `stripFactor` returns. -/
theorem strips_iff {p : Nat} (hp : 1 < p) {count n count' rest : Nat} :
    Strips p count n count' rest ↔ 0 < n ∧ stripFactor p count n = (count', rest) := by
  constructor
  · intro h
    obtain ⟨hcount, hrest⟩ := (strips_stripFactor hp count n h.pos).unique h
    exact ⟨h.pos, Prod.ext hcount hrest⟩
  · rintro ⟨hn, heq⟩
    have h := strips_stripFactor hp count n hn
    rwa [heq] at h

/-! ### The number of places -/

/-- The number of places is the least exponent of a power of ten that the denominator divides. -/
theorem exactPlaces?_eq_some_iff_isLeast {den : Nat} (hden : 0 < den) {k : Nat} :
    exactPlaces? den = some k ↔ IsLeast {j | den ∣ 10 ^ j} k := by
  rw [exactPlaces?_eq_some_iff hden]
  constructor
  · intro h
    exact ⟨(h k).mpr (Nat.le_refl k), fun j hj => (h j).mp hj⟩
  · rintro ⟨hk, hleast⟩ j
    -- From the least exponent on, all powers of ten are multiples of the denominator.
    exact ⟨fun hj => hleast hj, fun hj => hk.trans (Nat.pow_dvd_pow 10 hj)⟩

/-- There are places exactly when some power of ten is a multiple of the denominator. -/
theorem exists_exactPlaces?_eq_some_iff {den : Nat} (hden : 0 < den) :
    (∃ k, exactPlaces? den = some k) ↔ ∃ j, den ∣ 10 ^ j := by
  rw [← not_iff_not, not_exists, ← Option.eq_none_iff_forall_ne_some,
    exactPlaces?_eq_none_iff hden, not_exists]

/-- Each place takes a factor two of the denominator, or a factor five, which is larger. -/
theorem two_pow_le_of_exactPlaces? {den k : Nat} (hden : 0 < den) (h : exactPlaces? den = some k) :
    2 ^ k ≤ den := by
  obtain ⟨a, b, rest, hsplit, -, -, heq⟩ := exists_split_and_exactPlaces?_eq hden
  rw [h] at heq
  split at heq
  · rename_i hone
    have hk : k = max a b := Option.some.inj heq
    have hden_eq : den = 2 ^ a * 5 ^ b := by rw [hsplit, hone, Nat.mul_one]
    have hfive : 2 ^ b ≤ 5 ^ b := Nat.pow_le_pow_left (by decide) b
    have htwos : 2 ^ a ∣ den := ⟨5 ^ b, hden_eq⟩
    have hfives : 5 ^ b ∣ den := ⟨2 ^ a, by rw [hden_eq, Nat.mul_comm]⟩
    -- The larger count says which of the two powers is to be compared.
    rcases max_choice a b with hmax | hmax
    · rw [hk, hmax]
      exact Nat.le_of_dvd hden htwos
    · rw [hk, hmax]
      exact hfive.trans (Nat.le_of_dvd hden hfives)
  · cases heq

/-- There are fewer places than the denominator has bits. -/
theorem lt_of_exactPlaces?_of_lt {den k bits : Nat} (hden : 0 < den)
    (h : exactPlaces? den = some k) (hlt : den < 2 ^ bits) : k < bits :=
  (Nat.pow_lt_pow_iff_right Nat.one_lt_two).mp ((two_pow_le_of_exactPlaces? hden h).trans_lt hlt)

/-- **The number of places is the least exponent.** Let a denominator be positive. Both loops of the
search stop. The first takes all factors two out of the denominator, and the second all factors five
out of what is left. There are places exactly when nothing but one is left then, which is the case
exactly when the denominator divides some power of ten. The number of places is the least exponent of
such a power. It is the larger one of the two counts. -/
theorem places_are_least_exponent (den : Nat) (hden : 1 ≤ den) :
    (∃ twos odd fives rest, Strips 2 0 den twos odd ∧ Strips 5 0 odd fives rest ∧
      den = 2 ^ twos * 5 ^ fives * rest ∧ ¬ 2 ∣ rest ∧ ¬ 5 ∣ rest ∧
      exactPlaces? den = if rest = 1 then some (max twos fives) else none) ∧
    ((∃ k, exactPlaces? den = some k) ↔ ∃ j, den ∣ 10 ^ j) ∧
    (∀ k, exactPlaces? den = some k ↔ IsLeast {j | den ∣ 10 ^ j} k) ∧
    (exactPlaces? den = none ↔ ∀ j, ¬ den ∣ 10 ^ j) := by
  refine ⟨?_, exists_exactPlaces?_eq_some_iff hden,
    fun k => exactPlaces?_eq_some_iff_isLeast hden, exactPlaces?_eq_none_iff hden⟩
  obtain ⟨twos, odd, fives, rest, htwos, hodd, hfives, hsplit, htwo, hfive⟩ :=
    exists_stripFactor_split hden
  have hfirst : Strips 2 0 den twos odd := (strips_iff (by decide)).mpr ⟨hden, htwos⟩
  have hsecond : Strips 5 0 odd fives rest := (strips_iff (by decide)).mpr ⟨hodd, hfives⟩
  exact ⟨twos, odd, fives, rest, hfirst, hsecond, hsplit, htwo, hfive,
    by simp [exactPlaces?, htwos, hfives]⟩

/-- The denominator 2500 is `2 ^ 2 * 5 ^ 4`, and 12 has a factor three. -/
theorem places_of_2500_and_12 :
    1 ≤ 2500 ∧ exactPlaces? 2500 = some 4 ∧ IsLeast {j | 2500 ∣ 10 ^ j} 4 ∧
      (∃ twos odd fives, Strips 2 0 2500 twos odd ∧ Strips 5 0 odd fives 1 ∧
        max twos fives = 4) ∧
      1 ≤ 12 ∧ exactPlaces? 12 = none ∧ ∀ j, ¬ 12 ∣ 10 ^ j := by
  have hplaces : exactPlaces? 2500 = some 4 := by decide +kernel
  have hnone : exactPlaces? 12 = none := by decide +kernel
  obtain ⟨⟨twos, odd, fives, rest, hfirst, hsecond, -, -, -, heq⟩, -, hleast, -⟩ :=
    places_are_least_exponent 2500 (by decide)
  obtain ⟨-, -, -, hno⟩ := places_are_least_exponent 12 (by decide)
  refine ⟨by decide, hplaces, (hleast 4).mp hplaces, ⟨twos, odd, fives, hfirst, ?_⟩, by decide,
    hnone, hno.mp hnone⟩
  rw [hplaces] at heq
  split at heq
  · rename_i hone
    rw [hone] at hsecond
    exact ⟨hsecond, (Option.some.inj heq).symm⟩
  · cases heq

end AnswerDesk.Decimal
