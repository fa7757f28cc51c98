import AnswerDesk.Proofs.Expr.Value
import Mathlib.Data.List.Basic

/-!
# `AnswerDesk.Proofs.Expr.Fault`: which failure is reported

`Expr.exactValue` gives a number to every tree, also to one that divides by zero. Here a tree
has the value that exact arithmetic gives it, or none (`HasValue`), and a tree fails when that
arithmetic breaks down at its root (`Fails`): its divisor has the value zero, or its own value is
too large. A tree above a division by zero has no value, so it fails at most by its own divisor.

The two notions of a fault agree as far as they are needed. What fails is a fault
(`fault?_eq_some_of_fails`), and a fault fails if nothing beneath it is one (`fails_of_fault?`).
In postorder everything beneath a tree stands right before it (`beneath_suffix`), so the first
fault is the first tree that fails.

`evaluate_stops_at_first_failing` is the main result.
-/

set_option autoImplicit false

namespace AnswerDesk.Expr

/-- The value of a calculation in exact arithmetic. There is none where anything is divided by
zero. -/
inductive HasValue : Expr → Rat → Prop
  | literal (v : Rat) : HasValue (.literal v) v
  | negate {e : Expr} {v : Rat} (he : HasValue e v) : HasValue (.negate e) (-v)
  | add {a b : Expr} {x y : Rat} (ha : HasValue a x) (hb : HasValue b y) :
      HasValue (.binary .add a b) (x + y)
  | sub {a b : Expr} {x y : Rat} (ha : HasValue a x) (hb : HasValue b y) :
      HasValue (.binary .sub a b) (x - y)
  | mul {a b : Expr} {x y : Rat} (ha : HasValue a x) (hb : HasValue b y) :
      HasValue (.binary .mul a b) (x * y)
  | div {a b : Expr} {x y : Rat} (ha : HasValue a x) (hb : HasValue b y) (hy : y ≠ 0) :
      HasValue (.binary .div a b) (x / y)

/-- The calculation breaks down at its root, and why. -/
inductive Fails : Expr → EvalError → Prop
  /-- The divisor has the value zero. -/
  | divisor {a b : Expr} (hb : HasValue b 0) : Fails (.binary .div a b) .divisionByZero
  /-- The value has a numerator or a denominator of more than 4096 bits. -/
  | size {e : Expr} {v : Rat} (hv : HasValue e v) (hlarge : ¬ Fits v) : Fails e .overflow

/-! ### Exact values -/

/-- A calculation has no other value than its exact one. -/
theorem HasValue.eq_exactValue {e : Expr} {v : Rat} (h : HasValue e v) : v = e.exactValue := by
  induction h with
  | literal v => rfl
  | negate _ ih => rw [exactValue, ← ih]
  | add _ _ iha ihb => rw [exactValue, ← iha, ← ihb]
  | sub _ _ iha ihb => rw [exactValue, ← iha, ← ihb]
  | mul _ _ iha ihb => rw [exactValue, ← iha, ← ihb]
  | div _ _ _ iha ihb => rw [exactValue, ← iha, ← ihb]

/-- A calculation with a value does not divide by zero at its root. -/
theorem HasValue.dividesByZero_eq_false {e : Expr} {v : Rat} (h : HasValue e v) :
    e.dividesByZero = false := by
  cases h with
  | literal v => rfl
  | negate he => rfl
  | add ha hb => rfl
  | sub ha hb => rfl
  | mul ha hb => rfl
  | div ha hb hy => simpa [Expr.dividesByZero, ← hb.eq_exactValue] using hy

/-- A calculation that nowhere divides by zero has a value. -/
theorem hasValue_exactValue {e : Expr} (h : ∀ x ∈ e.postorder, x.dividesByZero = false) :
    HasValue e e.exactValue := by
  induction e with
  | literal v => exact .literal v
  | negate e ih => exact .negate (ih fun x hx => h x (by simp [postorder, hx]))
  | binary op a b iha ihb =>
      have ha := iha fun x hx => h x (by simp [postorder, hx])
      have hb := ihb fun x hx => h x (by simp [postorder, hx])
      cases op with
      | add => exact .add ha hb
      | sub => exact .sub ha hb
      | mul => exact .mul ha hb
      | div =>
          have hroot := h _ (mem_postorder_self _)
          exact .div ha hb (by simpa [dividesByZero] using hroot)

/-! ### What stands beneath a tree -/

/-- The subtrees beneath the root, each after the subtrees beneath it. -/
def beneath : Expr → List Expr
  | .literal _ => []
  | .negate e => e.postorder
  | .binary _ a b => a.postorder ++ b.postorder

theorem postorder_eq (e : Expr) : e.postorder = e.beneath ++ [e] := by
  cases e <;> rfl

/-- A tree of the postorder is the root, which comes last, or stands beneath it. -/
theorem concat_prefix_postorder_iff {e x : Expr} {before : List Expr} :
    before ++ [x] <+: e.postorder ↔
      (before = e.beneath ∧ x = e) ∨ before ++ [x] <+: e.beneath := by
  rw [postorder_eq, List.prefix_concat_iff, ← List.concat_eq_append, ← List.concat_eq_append,
    List.concat_inj]

/-- Postorder lists what is beneath a tree right before the tree. -/
theorem beneath_suffix {e x : Expr} {before : List Expr} (h : before ++ [x] <+: e.postorder) :
    x.beneath <:+ before := by
  induction e generalizing before with
  | literal v =>
      obtain ⟨rfl, rfl⟩ | h := concat_prefix_postorder_iff.mp h
      · exact List.suffix_refl _
      · simp [beneath] at h
  | negate e ih =>
      obtain ⟨rfl, rfl⟩ | h := concat_prefix_postorder_iff.mp h
      · exact List.suffix_refl _
      · exact ih h
  | binary op a b iha ihb =>
      obtain ⟨rfl, rfl⟩ | h := concat_prefix_postorder_iff.mp h
      · exact List.suffix_refl _
      · -- The tree stands in the left operand, or behind all of it in the right one.
        obtain hleft | ⟨rest, hrest⟩ :=
          List.prefix_or_prefix_of_prefix h (List.prefix_append a.postorder b.postorder)
        · exact iha hleft
        · rw [beneath, ← hrest, List.prefix_append_right_inj] at h
          obtain rfl | ⟨mid, y, rfl⟩ := List.eq_nil_or_concat' rest
          · -- The last tree of the left operand.
            rw [List.append_nil] at hrest
            exact iha (hrest ▸ List.prefix_refl _)
          · rw [← List.append_assoc] at hrest
            obtain ⟨rfl, hy⟩ := List.append_inj' hrest rfl
            cases hy
            exact (ihb h).trans (List.suffix_append _ _)

/-! ### Faults and failures -/

/-- What fails is a fault. -/
theorem fault?_eq_some_of_fails {e : Expr} {err : EvalError} (h : Fails e err) :
    e.fault? = some err := by
  cases h with
  | divisor hb => simp [fault?, dividesByZero, ← hb.eq_exactValue]
  | size hv hlarge =>
      rw [hv.eq_exactValue] at hlarge
      simp [fault?, hv.dividesByZero_eq_false, hlarge]

/-- Where nothing beneath divides by zero, a divisor that counts as zero has the value zero. -/
theorem fails_of_dividesByZero {e : Expr} (hbeneath : ∀ x ∈ e.beneath, x.dividesByZero = false)
    (h : e.dividesByZero = true) : Fails e .divisionByZero := by
  -- Of all trees only a division can divide by zero at its root.
  unfold dividesByZero at h
  split at h
  · rename_i a b
    have hb : HasValue b b.exactValue :=
      hasValue_exactValue fun x hx => hbeneath x (by simp [beneath, hx])
    rw [show b.exactValue = 0 by simpa using h] at hb
    exact .divisor hb
  · cases h

/-- Where nothing is a fault, there is a value. -/
theorem hasValue_of_forall_fault? {e : Expr} (h : ∀ x ∈ e.postorder, x.fault? = none) :
    HasValue e e.exactValue := by
  refine hasValue_exactValue ?_
  intro x hx
  exact (fault?_eq_none_iff.mp (h x hx)).1

/-- A fault fails if nothing beneath it is a fault. -/
theorem fails_of_fault? {e : Expr} {err : EvalError} (hbeneath : ∀ x ∈ e.beneath, x.fault? = none)
    (h : e.fault? = some err) : Fails e err := by
  have hdivides : ∀ x ∈ e.beneath, x.dividesByZero = false := by
    intro x hx
    exact (fault?_eq_none_iff.mp (hbeneath x hx)).1
  cases hroot : e.dividesByZero with
  | true =>
      have herr : some .divisionByZero = some err := by
        rw [← h, fault?, hroot]
        rfl
      cases herr
      exact fails_of_dividesByZero hdivides hroot
  | false =>
      -- The value exists, so its size is all that can be wrong.
      have hv : HasValue e e.exactValue := by
        refine hasValue_exactValue ?_
        intro x hx
        rw [postorder_eq] at hx
        rcases List.mem_append.mp hx with hx | hx
        · exact hdivides x hx
        · rwa [List.mem_singleton.mp hx]
      by_cases hfits : Fits e.exactValue
      · simp [fault?, hroot, hfits] at h
      · simp only [fault?, hroot, hfits, Bool.false_eq_true, if_false, Option.some.injEq] at h
        subst h
        exact .size hv hfits

/-- The first fault of a calculation fails. -/
theorem fails_of_first_fault {e x : Expr} {before after : List Expr} {err : EvalError}
    (hsplit : e.postorder = before ++ x :: after) (hbefore : ∀ y ∈ before, y.fault? = none)
    (hx : x.fault? = some err) : Fails x err := by
  have hprefix : before ++ [x] <+: e.postorder := ⟨after, by simp [hsplit]⟩
  refine fails_of_fault? ?_ hx
  intro y hy
  exact hbefore y ((beneath_suffix hprefix).mem hy)

/-- At the beginning of the postorder, nothing fails exactly when there are no faults. -/
theorem forall_not_fails_iff {e : Expr} {before rest : List Expr}
    (hsplit : e.postorder = before ++ rest) :
    (∀ y ∈ before, ∀ err, ¬ Fails y err) ↔ ∀ y ∈ before, y.fault? = none := by
  constructor
  · intro h
    rw [← List.findSome?_eq_none_iff, Option.eq_none_iff_forall_ne_some]
    intro err herr
    -- If there were faults, the first of them would fail.
    obtain ⟨front, x, behind, rfl, hx, hfront⟩ := List.findSome?_eq_some_iff.mp herr
    rw [List.append_assoc, List.cons_append] at hsplit
    exact h x (by simp) err (fails_of_first_fault hsplit hfront hx)
  · intro h y hy err hfails
    have hfault := fault?_eq_some_of_fails hfails
    rw [h y hy] at hfault
    cases hfault

/-! ### Evaluation -/

/-- The error is the first fault. -/
theorem evaluate_eq_error_iff {e : Expr} {err : EvalError} :
    e.evaluate = .error err ↔ e.postorder.findSome? fault? = some err := by
  rw [evaluate_eq_findSome?]
  cases e.postorder.findSome? fault? <;> simp

/-- Without a fault the result is the value in exact arithmetic. -/
theorem evaluate_eq_ok_iff_hasValue {e : Expr} {v : Rat} :
    e.evaluate = .ok v ↔ HasValue e v ∧ ∀ x ∈ e.postorder, x.fault? = none := by
  rw [evaluate_eq_findSome?, ← List.findSome?_eq_none_iff]
  cases hfirst : e.postorder.findSome? fault? with
  | none =>
      have hexact := hasValue_of_forall_fault? (List.findSome?_eq_none_iff.mp hfirst)
      constructor
      · intro h
        cases h
        exact ⟨hexact, rfl⟩
      · rintro ⟨hv, -⟩
        rw [hv.eq_exactValue]
  | some err => simp

/-- **Evaluation is exact, and stops at the first tree in postorder that fails.** It has a result
exactly when no subtree fails, and the result is the value in exact arithmetic. Otherwise it ends
with the failure of the first subtree in postorder that fails. -/
theorem evaluate_stops_at_first_failing (e : Expr) :
    ((∃ v, e.evaluate = .ok v) ↔ ∀ x ∈ e.postorder, ∀ err, ¬ Fails x err) ∧
    (∀ v, e.evaluate = .ok v ↔ HasValue e v ∧ ∀ x ∈ e.postorder, ∀ err, ¬ Fails x err) ∧
    ∀ err, e.evaluate = .error err ↔
      ∃ before x after, e.postorder = before ++ x :: after ∧
        (∀ y ∈ before, ∀ err', ¬ Fails y err') ∧ Fails x err := by
  -- Failures and faults agree on the whole postorder, and on what stands before the first of them.
  have hall := forall_not_fails_iff (List.append_nil e.postorder).symm
  refine ⟨?_, fun v => ?_, fun err => ?_⟩
  · rw [hall]
    constructor
    · rintro ⟨v, hv⟩
      exact (evaluate_eq_ok_iff_hasValue.mp hv).2
    · intro hnone
      exact ⟨_, evaluate_eq_ok_iff_hasValue.mpr ⟨hasValue_of_forall_fault? hnone, hnone⟩⟩
  · rw [hall, evaluate_eq_ok_iff_hasValue]
  · rw [evaluate_eq_error_iff, List.findSome?_eq_some_iff]
    constructor
    · rintro ⟨before, x, after, hsplit, hx, hbefore⟩
      exact ⟨before, x, after, hsplit, (forall_not_fails_iff hsplit).mpr hbefore,
        fails_of_first_fault hsplit hbefore hx⟩
    · rintro ⟨before, x, after, hsplit, hbefore, hx⟩
      exact ⟨before, x, after, hsplit, fault?_eq_some_of_fails hx,
        (forall_not_fails_iff hsplit).mp hbefore⟩

/-- The sum is too large, and the quotient has the divisor zero. What stands on the left is
reported. -/
example :
    let large : Expr := .literal (2 ^ 4095)
    let sum : Expr := .binary .add large large
    let quotient : Expr := .binary .div (.literal 1) (.literal 0)
    evaluate (.binary .mul sum quotient) = .error .overflow ∧
      evaluate (.binary .mul quotient sum) = .error .divisionByZero := by
  decide +kernel

end AnswerDesk.Expr
