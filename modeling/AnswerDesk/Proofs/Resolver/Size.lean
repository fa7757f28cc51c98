import AnswerDesk.Proofs.Resolver
import Mathlib.Data.Nat.Log

/-!
# `AnswerDesk.Proofs.Resolver.Size`: how large the values of a calculation get

A text of `n` characters has no value, and no part of it has one, with a numerator or a
denominator of more than `n` digits (`fitsDigits_of_read`). So no calculation of up to 1233
characters is too large to be worked out, since `10 ^ 1233 < 2 ^ 4096`.

The bound is additive, which is what makes the induction go through. An operation on
values of `a` and of `b` digits has at most `a + 1 + b` digits, and the operator is the
one character between the operands (`fitsDigits_binary`). It holds of sums too, whose
denominators multiply, and of quotients, which swap the numerator and the denominator of
the divisor.

The characters are counted in two steps. `Kind.width` is the least number of characters
that a lexeme of a kind can have. The lexemes of a text are no wider than the text
(`width_le_length`), and the values of a phrase have no more digits than its lexemes are
wide (`fitsDigits_of_derives`).
-/

set_option autoImplicit false

namespace AnswerDesk

open AnswerDesk.Expr (Derives Fits Nonterminal)
open Decimal (Denotes IsDigits digitsValue digitsValue_lt mkRat_digitsValue_append)
open Token (Kind Lexes)

/-- In lowest terms the numerator and the denominator have at most `k` digits. -/
def FitsDigits (k : Nat) (v : Rat) : Prop :=
  v.num.natAbs < 10 ^ k ∧ v.den < 10 ^ k

/-! ### Digits of the results of operations -/

theorem FitsDigits.mono {k l : Nat} {v : Rat} (hkl : k ≤ l) (h : FitsDigits k v) :
    FitsDigits l v := by
  have hpow : 10 ^ k ≤ 10 ^ l := Nat.pow_le_pow_right (by decide) hkl
  exact ⟨by have := h.1; omega, by have := h.2; omega⟩

/-- Bringing a fraction to lowest terms adds no digits. -/
theorem fitsDigits_divInt {k : Nat} {p q : Int} (hq : q ≠ 0) (hp : p.natAbs < 10 ^ k)
    (hqk : q.natAbs < 10 ^ k) : FitsDigits k (Rat.divInt p q) := by
  constructor
  · by_cases h0 : p = 0
    · simp [h0]
    · have hle := Int.natAbs_le_of_dvd_ne_zero (Rat.num_dvd p hq) h0
      omega
  · have hle := Int.natAbs_le_of_dvd_ne_zero (Rat.den_dvd p q) hq
    rw [Int.natAbs_natCast] at hle
    omega

theorem fitsDigits_natCast {k n : Nat} (hk : k ≠ 0) (hn : n < 10 ^ k) : FitsDigits k n :=
  ⟨by simpa using hn, by simpa using Nat.one_lt_pow hk (by decide)⟩

theorem FitsDigits.neg {k : Nat} {v : Rat} (h : FitsDigits k v) : FitsDigits k (-v) := by
  simpa [FitsDigits] using h

/-- The products of numbers of `a` and of `b` digits leave room for one more digit. -/
theorem add_lt_pow {a b m n : Nat} (hm : m < 10 ^ a * 10 ^ b) (hn : n < 10 ^ a * 10 ^ b) :
    m + n < 10 ^ (a + 1 + b) := by
  have h : 10 ^ (a + 1 + b) = 10 * (10 ^ a * 10 ^ b) := by
    rw [Nat.pow_add, Nat.pow_succ]
    ring
  omega

theorem mul_lt_pow {a b m n : Nat} (hm : m < 10 ^ a) (hn : n < 10 ^ b) :
    m * n < 10 ^ a * 10 ^ b :=
  Nat.mul_lt_mul'' hm hn

theorem FitsDigits.add {a b : Nat} {v w : Rat} (hv : FitsDigits a v) (hw : FitsDigits b w) :
    FitsDigits (a + 1 + b) (v + w) := by
  have hden : (v.den : Int) * w.den ≠ 0 := by positivity
  -- The sum of the cross products is where the digit for the operator is needed.
  rw [Rat.add_num_den]
  refine fitsDigits_divInt hden ?_ ?_
  · have hle := Int.natAbs_add_le (v.num * w.den) (v.den * w.num)
    simp only [Int.natAbs_mul, Int.natAbs_natCast] at hle
    have := add_lt_pow (mul_lt_pow hv.1 hw.2) (mul_lt_pow hv.2 hw.1)
    omega
  · rw [Int.natAbs_mul, Int.natAbs_natCast, Int.natAbs_natCast]
    exact add_lt_pow (n := 0) (mul_lt_pow hv.2 hw.2) (by positivity)

theorem FitsDigits.mul {a b : Nat} {v w : Rat} (hv : FitsDigits a v) (hw : FitsDigits b w) :
    FitsDigits (a + 1 + b) (v * w) := by
  have hden : (v.den : Int) * w.den ≠ 0 := by positivity
  have hprod : v * w = Rat.divInt (v.num * w.num) (v.den * w.den) := by
    rw [Rat.divInt_eq_div]
    push_cast
    rw [mul_div_mul_comm, Rat.num_div_den, Rat.num_div_den]
  rw [hprod]
  refine fitsDigits_divInt hden ?_ ?_
  · rw [Int.natAbs_mul]
    exact add_lt_pow (n := 0) (mul_lt_pow hv.1 hw.1) (by positivity)
  · rw [Int.natAbs_mul, Int.natAbs_natCast, Int.natAbs_natCast]
    exact add_lt_pow (n := 0) (mul_lt_pow hv.2 hw.2) (by positivity)

/-- Swapping the numerator and the denominator keeps the number of digits. -/
theorem FitsDigits.inv {k : Nat} {v : Rat} (hv : FitsDigits k v) (h0 : v ≠ 0) :
    FitsDigits k v⁻¹ := by
  rw [Rat.inv_def]
  exact fitsDigits_divInt (Rat.num_ne_zero.mpr h0) (by simpa using hv.2) hv.1

/-- **An operation adds the digits of its operands, and one for the operator.** A division
by zero counts as zero here. -/
theorem fitsDigits_binary {c d : Nat} (op : Op) {a b : Expr}
    (ha : FitsDigits c a.exactValue) (hb : FitsDigits d b.exactValue) :
    FitsDigits (c + 1 + d) (Expr.exactValue (.binary op a b)) := by
  cases op with
  | add => exact ha.add hb
  | sub =>
      rw [Expr.exactValue, sub_eq_add_neg]
      exact ha.add hb.neg
  | mul => exact ha.mul hb
  | div =>
      rw [Expr.exactValue, div_eq_mul_inv]
      by_cases h0 : b.exactValue = 0
      · rw [h0, inv_zero, mul_zero]
        exact fitsDigits_natCast (n := 0) (by omega) (by positivity)
      · exact ha.mul (hb.inv h0)

/-! ### Digits of numerals -/

/-- What a numeral denotes has no more digits than the numeral. -/
theorem Decimal.Denotes.fitsDigits {run : List Char} {v : Rat} (h : Denotes run v) :
    FitsDigits run.length v := by
  cases h with
  | whole hds =>
      exact fitsDigits_natCast (by simpa using hds.ne_nil) (digitsValue_lt hds.isDigit)
  | @fraction ds fs hds hfs =>
      -- The point is the one character that brings the power of ten under the bound.
      have hvalue : digitsValue (ds ++ fs) < 10 ^ (ds ++ fs).length :=
        digitsValue_lt fun c hc =>
          (List.mem_append.mp hc).elim (hds.isDigit c) (hfs.isDigit c)
      have hmono : 10 ^ (ds ++ fs).length ≤ 10 ^ (ds ++ '.' :: fs).length :=
        Nat.pow_le_pow_right (by decide) (by simp)
      have hscale : 10 ^ fs.length < 10 ^ (ds ++ '.' :: fs).length :=
        Nat.pow_lt_pow_right (by decide) (by simp; omega)
      rw [← mkRat_digitsValue_append, Rat.mkRat_eq_divInt]
      refine fitsDigits_divInt (by positivity) ?_ ?_
      · rw [Int.natAbs_natCast]
        omega
      · rwa [Int.natAbs_natCast]

/-! ### Counting characters -/

/-- The least number of characters of a lexeme of this kind: a number has as many digits as
its numerator or its denominator. -/
def Token.Kind.width : Kind → Nat
  | .number v => Nat.clog 10 (max v.num.natAbs v.den + 1)
  | _ => 1

theorem width_number_le_iff {v : Rat} {k : Nat} :
    (Kind.number v).width ≤ k ↔ FitsDigits k v := by
  rw [Kind.width, Nat.clog_le_iff_le_pow (by decide), FitsDigits]
  omega

/-- The lexemes of a text are no wider than the text. -/
theorem width_le_length {pos : Nat} {cs : List Char} {ts : List Token} (h : Lexes pos cs ts) :
    (ts.map (·.kind.width)).sum ≤ cs.length := by
  induction h with
  | nil pos => simp
  | blank _ _ ih => simp only [List.length_cons]; omega
  | @symbol pos c cs ts kind hc _ ih =>
      have hone : kind.width = 1 := by
        cases kind with
        | number v => exact absurd rfl (Token.ne_number_of_ofChar? hc v)
        | _ => rfl
      simp only [List.map_cons, List.sum_cons, List.length_cons, hone]
      omega
  | number hrun _ _ ih =>
      have hwidth := width_number_le_iff.mpr hrun.fitsDigits
      simp only [List.map_cons, List.sum_cons, List.length_append]
      omega

/-- An operator between two phrases, whichever rule joins them, keeps the bound on all the
values. -/
theorem fitsDigits_joined {ks ls : List Kind} {a b : Expr} (op : Op)
    (ha : ∀ x ∈ a.postorder, FitsDigits (ks.map Kind.width).sum x.exactValue)
    (hb : ∀ x ∈ b.postorder, FitsDigits (ls.map Kind.width).sum x.exactValue) :
    ∀ x ∈ (Expr.binary op a b).postorder,
      FitsDigits ((ks ++ .operator op :: ls).map Kind.width).sum x.exactValue := by
  intro x hx
  have hsum : ((ks ++ .operator op :: ls).map Kind.width).sum
      = (ks.map Kind.width).sum + 1 + (ls.map Kind.width).sum := by
    simp [Kind.width]
    omega
  rw [hsum]
  simp only [Expr.postorder, List.mem_append, List.mem_singleton] at hx
  obtain (hx | hx) | rfl := hx
  · exact (ha x hx).mono (by omega)
  · exact (hb x hx).mono (by omega)
  · have hleft := ha a (Expr.mem_postorder_self a)
    have hright := hb b (Expr.mem_postorder_self b)
    exact fitsDigits_binary op hleft hright

/-- **The values of a phrase have no more digits than its lexemes are wide.** -/
theorem fitsDigits_of_derives {n : Nonterminal} {ks : List Kind} {e : Expr} {levels : Nat}
    (h : Derives n ks e levels) :
    ∀ x ∈ e.postorder, FitsDigits (ks.map Kind.width).sum x.exactValue := by
  induction h with
  | number v =>
      intro x hx
      obtain rfl : x = .literal v := by simpa [Expr.postorder] using hx
      have hwidth : (Kind.number v).width ≤ ([Kind.number v].map Kind.width).sum := by simp
      exact width_number_le_iff.mp hwidth
  | @negation ks e levels _ ih =>
      intro x hx
      simp only [Expr.postorder, List.mem_append, List.mem_singleton] at hx
      have hle : (ks.map Kind.width).sum ≤ ((.operator .sub :: ks).map Kind.width).sum := by simp
      obtain hx | rfl := hx
      · exact (ih x hx).mono hle
      · exact (ih e (Expr.mem_postorder_self e)).neg.mono hle
  | parentheses _ ih => exact fun x hx => (ih x hx).mono (by simp; omega)
  | factor _ ih => exact ih
  | product _ _ _ iha ihb => exact fitsDigits_joined _ iha ihb
  | term _ ih => exact ih
  | sum _ _ _ iha ihb => exact fitsDigits_joined _ iha ihb

/-- The value of every part of a text that is read has no more digits than the text has
characters. -/
theorem fitsDigits_of_read {limits : Limits} {cs : List Char} {tokens : List Token} {e : Expr}
    (h : Calculation.read limits cs = .ok (tokens, e)) :
    ∀ x ∈ e.postorder, FitsDigits cs.length x.exactValue := by
  obtain ⟨lexemes, hlexes, levels, hder, _⟩ := Calculation.exists_read_eq_ok_iff.mp ⟨tokens, h⟩
  have hwidth := width_le_length hlexes
  intro x hx
  have hx := fitsDigits_of_derives hder x hx
  rw [List.map_map] at hx
  exact hx.mono hwidth

/-! ### No overflow -/

theorem FitsDigits.fits {k : Nat} {v : Rat} (hk : k ≤ 1233) (h : FitsDigits k v) : Fits v := by
  have hlt := Expr.ten_pow_lt_two_pow
  obtain ⟨hnum, hden⟩ := h.mono hk
  exact ⟨hnum.trans hlt, hden.trans hlt⟩

/-- A tree whose values all fit has a value, or is divided by zero somewhere. -/
theorem evaluate_ne_overflow {e : Expr} (h : ∀ x ∈ e.postorder, Fits x.exactValue) :
    e.evaluate ≠ .error .overflow := by
  intro hover
  rw [Expr.evaluate_eq_findSome?] at hover
  split at hover
  · rename_i err hfault
    cases hover
    obtain ⟨x, hx, hxfault⟩ := List.exists_of_findSome?_eq_some hfault
    -- The fault is at a subtree, and there the size is in order.
    simp only [Expr.fault?, h x hx, if_true] at hxfault
    split at hxfault <;> cases hxfault
  · cases hover

/-- A question is not too large to be worked out if no calculation of more than 1233
characters is allowed. -/
theorem resolve_ne_overflow_of_length {r : Resolver} (hlength : r.limits.length ≤ 1233)
    (question : String) : r.resolve question ≠ .error (.arithmetic (.value .overflow)) := by
  intro h
  obtain ⟨hle, tokens, e, hread, herr⟩ :=
    Calculation.answer_eq_value_error_iff.mp (Resolver.answer_of_resolve_error h nofun)
  have hfits : ∀ x ∈ e.postorder, Fits x.exactValue := fun x hx =>
    (fitsDigits_of_read hread x hx).fits (hle.trans hlength)
  exact evaluate_ne_overflow hfits herr

/-- **No calculation of up to 1233 characters overflows.** This holds under any limits that
allow no longer ones, and under the limits that stand unless others are chosen. The values
of all parts of a text of `n` characters stay below `10 ^ n`, above and below the line, and
`10 ^ 1233` has fewer bits than a value may have. -/
theorem short_calculation_never_overflows :
    (∀ (r : Resolver) (question : String), r.limits.length ≤ 1233 →
      r.resolve question ≠ .error (.arithmetic (.value .overflow))) ∧
    (∀ (lookup : String → Option String) (question : String),
      Resolver.resolve ⟨lookup, {}⟩ question ≠ .error (.arithmetic (.value .overflow))) ∧
    (∀ (limits : Limits) (cs : List Char) (tokens : List Token) (e : Expr),
      Calculation.read limits cs = .ok (tokens, e) → ∀ x ∈ e.postorder,
        x.exactValue.num.natAbs < 10 ^ cs.length ∧ x.exactValue.den < 10 ^ cs.length) ∧
    10 ^ 1233 < 2 ^ 4096 := by
  have hdefault : (1024 : Nat) ≤ 1233 := by decide
  exact ⟨fun r question hlength => resolve_ne_overflow_of_length hlength question,
    fun lookup question => resolve_ne_overflow_of_length hdefault question,
    fun limits cs tokens e hread => fitsDigits_of_read hread, Expr.ten_pow_lt_two_pow⟩

/-- `-0.5 / (1 - 1.25)` may be asked where 1233 characters are allowed. Its value is 2, and
the value of its divisor has three digits at most of the 17 that it could have. -/
theorem quotient_of_decimals_fits :
    let r : Resolver := ⟨fun _ => none, { length := 1233 }⟩
    let divisor : Expr := .binary .sub (.literal 1) (.literal (5 / 4))
    let e : Expr := .binary .div (.negate (.literal (1 / 2))) divisor
    r.limits.length ≤ 1233 ∧
      r.resolve "-0.5 / (1 - 1.25)" ≠ .error (.arithmetic (.value .overflow)) ∧
      (∃ tokens, Calculation.read r.limits "-0.5 / (1 - 1.25)".toList = .ok (tokens, e)) ∧
      divisor ∈ e.postorder ∧
      divisor.exactValue.num.natAbs < 10 ^ 17 ∧ divisor.exactValue.den < 10 ^ 17 := by
  intro r divisor e
  have hread : ∃ tokens, Calculation.read r.limits "-0.5 / (1 - 1.25)".toList
      = .ok (tokens, e) :=
    ⟨[⟨.operator .sub, 0⟩, ⟨.number (1 / 2), 1⟩, ⟨.operator .div, 5⟩, ⟨.opening, 7⟩,
      ⟨.number 1, 8⟩, ⟨.operator .sub, 10⟩, ⟨.number (5 / 4), 12⟩, ⟨.closing, 16⟩,
      ⟨.finish, 17⟩], by decide +kernel⟩
  have hmem : divisor ∈ e.postorder := by decide +kernel
  obtain ⟨hshort, _, hsmall, _⟩ := short_calculation_never_overflows
  obtain ⟨tokens, htokens⟩ := hread
  exact ⟨Nat.le_refl _, hshort r _ (Nat.le_refl _), ⟨tokens, htokens⟩, hmem,
    hsmall r.limits _ tokens e htokens divisor hmem⟩

end AnswerDesk
