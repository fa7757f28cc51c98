import AnswerDesk.Proofs.Decimal.Cut
import AnswerDesk.Proofs.Resolver
import AnswerDesk.Proofs.Text.Normal

/-!
# `AnswerDesk.Proofs.Resolver.Repeat`: an answer that is asked as a question

The answer to a calculation is a numeral, perhaps with a minus sign in front, and as such
it is a calculation. This file says what becomes of it when it is asked.

* The text is looked up and read as it stands: there is nothing to trim and nothing to put
  in lowercase (`lowercase_trim_of_denotesSigned`).
* It is read as one literal, or as one that is negated. That takes one level at most
  (`exists_read_of_denotesSigned`), and the value is the number that the text denotes.
* That number is written in the same way again (`Decimal.writeChars_cut`). So the answer is
  the same, unless the number is too large to be worked out.

Too large it can only be above the line. Below the line stands what divides a power of ten
with at most 200 digits, or the denominator of a value that was not too large
(`den_cut_lt`). A number whose expansion ends is written as it is, and was not too large.
-/

set_option autoImplicit false

namespace AnswerDesk

open Decimal (Denotes DenotesSigned Terminating cut isNumeralChar places)
open AnswerDesk.Expr (Derives Fits bounded bounded_eq maxHeight)
open Text (IsLower isBlank)
open Token (Lexes lexes_of_denotes)

/-! ### The text of a number as a question -/

/-- The characters of a written number are neither blank nor capital letters. -/
theorem isLower_of_isNumeralChar {c : Char} (hc : isNumeralChar c = true) :
    IsLower c ∧ isBlank c = false := by
  have hrange : 46 ≤ c.toNat ∧ c.toNat ≤ 57 := by
    rcases Bool.or_eq_true_iff.mp hc with hdigit | hpoint
    · have hdigits : 48 ≤ c.toNat ∧ c.toNat ≤ 57 := Char.isDigit_iff_toNat.mp hdigit
      omega
    · rw [beq_iff_eq.mp hpoint]
      decide
  -- The capital letters come behind the digits.
  have hlower : c.toLower = c := by
    refine dif_neg fun hupper => ?_
    have hle : 65 ≤ c.toNat := UInt32.le_iff_toNat_le.mp hupper.1
    omega
  have h := Text.isLower_toLower (show c.toNat < 0x80 by omega)
  rw [hlower] at h
  exact ⟨h.1, Token.isBlank_of_isNumeralChar hc⟩

theorem isLower_of_denotesSigned {cs : List Char} {w : Rat} (h : DenotesSigned cs w) :
    ∀ c ∈ cs, IsLower c ∧ isBlank c = false := by
  intro c hc
  cases h with
  | unsigned hrun => exact isLower_of_isNumeralChar (hrun.isNumeralChar c hc)
  | negative hrun =>
      rcases List.mem_cons.mp hc with rfl | hc
      · exact ⟨(Text.isLower_toLower (show '-'.toNat < 0x80 by decide)).1, by decide⟩
      · exact isLower_of_isNumeralChar (hrun.isNumeralChar c hc)

theorem trim_of_denotesSigned {cs : List Char} {w : Rat} (h : DenotesSigned cs w) :
    Text.trim cs = cs :=
  Text.trim_of_isTrimmed
    (Text.isTrimmed_of_forall fun c hc => (isLower_of_denotesSigned h c hc).2)

/-- A written number is its own key. -/
theorem lowercase_trim_of_denotesSigned {cs : List Char} {w : Rat} (h : DenotesSigned cs w) :
    Text.lowercase (Text.trim cs) = cs := by
  rw [trim_of_denotesSigned h]
  exact Text.lowercase_of_forall fun c hc => (isLower_of_denotesSigned h c hc).1

/-! ### Working it out -/

theorem fits_neg_iff {v : Rat} : Fits (-v) ↔ Fits v := by
  simp only [Fits, Rat.num_neg_eq_neg_num, Int.natAbs_neg, Rat.den_neg_eq_den]

/-- Without its sign a number is as large as with it. -/
theorem bounded_bind_neg (v : Rat) : (bounded v >>= fun x => bounded (-x)) = bounded (-v) := by
  rw [bounded_eq, bounded_eq]
  by_cases h : Fits v
  · rw [if_pos h, if_pos (fits_neg_iff.mpr h)]
    show bounded (-v) = _
    rw [bounded_eq, if_pos (fits_neg_iff.mpr h)]
  · rw [if_neg h, if_neg (mt fits_neg_iff.mp h)]
    rfl

/-- **A written number is read within one level**, and its value is the number that it
denotes. -/
theorem exists_read_of_denotesSigned {limits : Limits} (hdepth : 1 ≤ limits.depth)
    {cs : List Char} {w : Rat} (h : DenotesSigned cs w) :
    ∃ tokens e, Calculation.read limits cs = .ok (tokens, e) ∧ e.evaluate = bounded w := by
  have hroom : 1 ≤ min limits.depth maxHeight := le_min hdepth (by decide)
  have hheight : ∀ {v : Rat}, (Expr.negate (.literal v)).height ≤ maxHeight := by
    simp [Expr.height, maxHeight]
  cases h with
  | unsigned hrun =>
      obtain ⟨tokens, hread⟩ := Calculation.exists_read_eq_ok_iff.mpr
        ⟨_, lexes_of_denotes hrun 0, 0, .expression_of_factor (.number w), by omega, Nat.zero_le _⟩
      exact ⟨tokens, .literal w, hread, rfl⟩
  | @negative run v hrun =>
      have hlexes := Lexes.symbol (c := '-') rfl (lexes_of_denotes hrun 1)
      obtain ⟨tokens, hread⟩ := Calculation.exists_read_eq_ok_iff.mpr
        ⟨_, hlexes, 1, .expression_of_factor (.negation (.number v)), hroom, hheight⟩
      exact ⟨tokens, .negate (.literal v), hread, bounded_bind_neg v⟩

/-- The answer to a written number that is not among the known questions: the number is
written again if it is not too large. -/
theorem resolve_of_denotesSigned {r : Resolver} (hdepth : 1 ≤ r.limits.depth) {a : String}
    {w : Rat} (h : DenotesSigned a.toList w) (hmiss : r.lookup a = none)
    (hlength : a.toList.length ≤ r.limits.length) :
    r.resolve a = if Fits w then .ok (Decimal.write w r.limits.digits)
      else .error (.arithmetic (.value .overflow)) := by
  have hne : a.toList ≠ [] := by
    intro hnil
    rw [hnil] at h
    cases h with
    | unsigned hrun =>
        obtain ⟨c, cs, hcons, _⟩ := hrun.exists_cons
        cases hcons
  have htrim := trim_of_denotesSigned h
  have hkey : String.ofList (Text.lowercase (Text.trim a.toList)) = a := by
    rw [lowercase_trim_of_denotesSigned h, String.ofList_toList]
  obtain ⟨tokens, e, hread, hvalue⟩ := exists_read_of_denotesSigned hdepth h
  rw [Resolver.resolve_of_miss (by rwa [htrim]) (by rwa [hkey]), htrim,
    Calculation.answer_of_read hlength hread, hvalue, bounded_eq]
  by_cases hfits : Fits w
  · simp only [if_pos hfits]
  · simp only [if_neg hfits]

/-! ### The size of what is left -/

/-- Below the line the number that is left is small: a divisor of a power of ten with few
digits, or what it was. -/
theorem den_cut_lt {v : Rat} (hv : Fits v) (digits : Nat) : (cut v digits).den < 2 ^ 4096 := by
  by_cases h : Terminating v
  · rw [Decimal.cut_of_terminating h]
    exact hv.2
  · have hplaces : places v digits ≤ 200 := by
      rw [Decimal.places_of_not_terminating h]
      exact min_le_right digits Decimal.maxDigits
    have hle := Nat.le_of_dvd (by positivity) (Decimal.den_cut_dvd v digits)
    have hdigits : places v digits ≤ 1233 := hplaces.trans (by decide)
    have hpow := pow_le_pow_right₀ (show 1 ≤ 10 by decide) hdigits
    exact (hle.trans hpow).trans_lt Expr.ten_pow_lt_two_pow

/-- The values that can be worked out fit. -/
theorem fits_of_evaluate {e : Expr} {v : Rat} (h : e.evaluate = .ok v) :
    Fits v ∧ v = e.exactValue := by
  obtain ⟨_, hfits, rfl⟩ := Expr.evaluate_eq_ok_iff.mp h
  exact ⟨hfits e (Expr.mem_postorder_self e), rfl⟩

/-- **An answer that is asked as a question answers itself.** Let the answer `a` to a
question have been calculated, and let `a` be neither known nor too long. Asked itself, `a`
is answered by `a`, or is too large to be worked out. The latter is the case exactly when
the number that `a` denotes has a numerator of more than 4096 bits in lowest terms, and
never if the expansion of the exact value of the question ends. -/
theorem answer_answers_itself (r : Resolver) (hdepth : 1 ≤ r.limits.depth)
    (question a : String)
    (hmiss : r.lookup (String.ofList (Text.lowercase (Text.trim question.toList))) = none)
    (ha : r.resolve question = .ok a) (hmissAgain : r.lookup a = none)
    (hlength : a.toList.length ≤ r.limits.length) :
    (r.resolve a = .ok a ∨ r.resolve a = .error (.arithmetic (.value .overflow))) ∧
    (∃ w, DenotesSigned a.toList w ∧
      (r.resolve a = .error (.arithmetic (.value .overflow)) ↔ 2 ^ 4096 ≤ w.num.natAbs)) ∧
    ∃ tokens e, Calculation.read r.limits (Text.trim question.toList) = .ok (tokens, e) ∧
      (Terminating e.exactValue → r.resolve a = .ok a) := by
  obtain ⟨tokens, e, v, hread, hv, rfl⟩ :=
    Calculation.exists_evaluate_of_answer (Resolver.answer_of_resolve_ok hmiss ha)
  obtain ⟨hfits, rfl⟩ := fits_of_evaluate hv
  have hden := den_cut_lt hfits r.limits.digits
  have hdenotes : DenotesSigned (Decimal.write e.exactValue r.limits.digits).toList
      (cut e.exactValue r.limits.digits) := by
    simpa [Decimal.write] using Decimal.denotesSigned_writeChars e.exactValue r.limits.digits
  have hwritten : Decimal.write (cut e.exactValue r.limits.digits) r.limits.digits
      = Decimal.write e.exactValue r.limits.digits := by
    rw [Decimal.write, Decimal.writeChars_cut, Decimal.write]
  have hagain := resolve_of_denotesSigned hdepth hdenotes hmissAgain hlength
  rw [hwritten] at hagain
  rw [hagain]
  refine ⟨?_, ⟨_, hdenotes, ?_⟩, tokens, e, hread, fun hend => ?_⟩
  · by_cases hcut : Fits (cut e.exactValue r.limits.digits)
    · exact .inl (if_pos hcut)
    · exact .inr (if_neg hcut)
  · by_cases hcut : Fits (cut e.exactValue r.limits.digits)
    · rw [if_pos hcut]
      refine iff_of_false ?_ (Nat.not_le_of_lt hcut.1)
      intro h
      cases h
    · rw [if_neg hcut]
      exact iff_of_true rfl (Nat.le_of_not_lt fun hnum => hcut ⟨hnum, hden⟩)
  · rw [Decimal.cut_of_terminating hend, if_pos hfits]

/-- `1 / (2 - 10)` is answered by `-0.125`, which has one level and answers itself. -/
theorem negative_answer_answers_itself :
    let r : Resolver := ⟨fun _ => none, { depth := 1 }⟩
    1 ≤ r.limits.depth ∧ r.resolve " 1 / (2 - 10)" = .ok "-0.125" ∧
      "-0.125".toList.length ≤ r.limits.length ∧ r.resolve "-0.125" = .ok "-0.125" := by
  intro r
  have ha : r.resolve " 1 / (2 - 10)" = .ok "-0.125" := by decide +kernel
  have hlength : "-0.125".toList.length ≤ r.limits.length := by decide +kernel
  obtain ⟨_, _, tokens, e, hread, hagain⟩ :=
    answer_answers_itself r (Nat.le_refl 1) " 1 / (2 - 10)" "-0.125" rfl ha rfl hlength
  have htree : Calculation.read r.limits (Text.trim " 1 / (2 - 10)".toList)
      = .ok ([⟨.number 1, 0⟩, ⟨.operator .div, 2⟩, ⟨.opening, 4⟩, ⟨.number 2, 5⟩,
          ⟨.operator .sub, 7⟩, ⟨.number 10, 9⟩, ⟨.closing, 11⟩, ⟨.finish, 12⟩],
        .binary .div (.literal 1) (.binary .sub (.literal 2) (.literal 10))) := by
    decide +kernel
  rw [htree] at hread
  cases hread
  have hend : Terminating
      (Expr.exactValue (.binary .div (.literal 1) (.binary .sub (.literal 2) (.literal 10)))) :=
    ⟨3, by decide +kernel⟩
  exact ⟨Nat.le_refl 1, ha, hlength, hagain hend⟩

end AnswerDesk
