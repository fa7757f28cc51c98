import AnswerDesk.Expr.Value
import Mathlib.Algebra.Group.Nat.Defs

/-!
# `AnswerDesk.Proofs.Expr.Value`: the exact value, and the first fault in postorder

`Expr.evaluate` interleaves two things: it computes a value, and it stops at the first
operation that may not be carried out. Here they are apart. `Expr.exactValue` is the value
with no bound on its size, and `Expr.fault?` says what is wrong at the root of a tree when
everything below it is in order.

* `evaluate_eq_findSome?`: evaluation reports the first fault among the subtrees in
  postorder, and without one returns the exact value.
* `evaluate_eq_ok_iff`: a value is returned exactly when no divisor is zero and the value
  of every subtree fits.

The exact value of a division by zero is zero. No statement depends on it: such a division
is a fault, and it comes before all faults above it.
-/

set_option autoImplicit false

namespace AnswerDesk.Expr

/-- The value of a calculation when nothing bounds the size of numbers. -/
def exactValue : Expr → Rat
  | .literal v => v
  | .negate e => -e.exactValue
  | .binary .add a b => a.exactValue + b.exactValue
  | .binary .sub a b => a.exactValue - b.exactValue
  | .binary .mul a b => a.exactValue * b.exactValue
  | .binary .div a b => a.exactValue / b.exactValue

/-- In lowest terms the numerator and the denominator have at most 4096 bits. -/
def Fits (v : Rat) : Prop :=
  v.num.natAbs < 2 ^ 4096 ∧ v.den < 2 ^ 4096

instance (v : Rat) : Decidable (Fits v) :=
  inferInstanceAs (Decidable (_ ∧ _))

/-- Values of up to 1233 digits have at most 4096 bits. -/
theorem ten_pow_lt_two_pow : 10 ^ 1233 < 2 ^ 4096 := by decide +kernel

/-- The root is a division, and its divisor has the value zero. -/
def dividesByZero : Expr → Bool
  | .binary .div _ b => b.exactValue = 0
  | _ => false

/-- What is wrong at the root, the subtrees being in order. -/
def fault? (e : Expr) : Option EvalError :=
  if e.dividesByZero then some .divisionByZero
  else if Fits e.exactValue then none
  else some .overflow

theorem bitLength_le_iff {n k : Nat} : bitLength n ≤ k ↔ n < 2 ^ k := by
  unfold bitLength
  split
  · rename_i h0
    rw [h0]
    exact iff_of_true (Nat.zero_le k) (Nat.two_pow_pos k)
  · rename_i h0
    rw [Nat.add_one_le_iff, Nat.log2_lt h0]

theorem bounded_eq (v : Rat) : bounded v = if Fits v then .ok v else .error .overflow := by
  unfold bounded
  simp only [bitLength_le_iff, maxBits]
  rfl

/-- What the root comes to by itself, the subtrees being in order. -/
def rootOutcome (e : Expr) : Except EvalError Rat :=
  match e.fault? with
  | some err => .error err
  | none => .ok e.exactValue

/-- Where nothing is divided by zero, the size is all that can be wrong at the root. -/
theorem bounded_exactValue {e : Expr} (he : e.dividesByZero = false) :
    bounded e.exactValue = e.rootOutcome := by
  rw [bounded_eq, rootOutcome, fault?, he]
  by_cases h : Fits e.exactValue <;> simp [h]

/-- One operation, its operands being in order. -/
theorem apply_bind_bounded (op : Op) (a b : Expr) :
    (apply op a.exactValue b.exactValue >>= bounded) = rootOutcome (.binary op a b) := by
  cases op with
  | add => exact bounded_exactValue (e := .binary .add a b) rfl
  | sub => exact bounded_exactValue (e := .binary .sub a b) rfl
  | mul => exact bounded_exactValue (e := .binary .mul a b) rfl
  | div =>
      by_cases hb : b.exactValue = 0
      · simp [apply, hb, rootOutcome, fault?, dividesByZero, bind, Except.bind]
      · have hdiv : dividesByZero (.binary .div a b) = false := by simp [dividesByZero, hb]
        rw [← bounded_exactValue hdiv]
        simp [apply, hb, exactValue, bind, Except.bind]

/-- **Evaluation reports the first fault in postorder**, and returns the exact value if
there is none. -/
theorem evaluate_eq_findSome? (e : Expr) :
    e.evaluate = match e.postorder.findSome? fault? with
      | some err => .error err
      | none => .ok e.exactValue := by
  induction e with
  | literal v =>
      show bounded (exactValue (.literal v)) = _
      rw [bounded_exactValue rfl, rootOutcome, postorder, List.findSome?_singleton]
  | negate e ih =>
      rw [evaluate, ih, postorder, List.findSome?_append, List.findSome?_singleton]
      cases e.postorder.findSome? fault? with
      | some err => rfl
      | none =>
          show bounded (exactValue (.negate e)) = _
          rw [bounded_exactValue rfl]
          simp only [rootOutcome, Option.none_or]
  | binary op a b iha ihb =>
      -- Postorder lists the left operand, the right one and the root, in the order in
      -- which evaluation visits them. The first fault ends both.
      rw [evaluate, iha, ihb, postorder, List.findSome?_append, List.findSome?_append,
        List.findSome?_singleton]
      cases a.postorder.findSome? fault? with
      | some err => rfl
      | none =>
          cases b.postorder.findSome? fault? with
          | some err => rfl
          | none =>
              show (apply op a.exactValue b.exactValue >>= bounded) = _
              rw [apply_bind_bounded]
              simp only [rootOutcome, Option.none_or]

/-- A tree is in order at its root when it does not divide by zero and its value fits. -/
theorem fault?_eq_none_iff {e : Expr} :
    e.fault? = none ↔ e.dividesByZero = false ∧ Fits e.exactValue := by
  unfold fault?
  split <;> simp_all

/-- No subtree divides by zero exactly when every divisor has a value other than zero. -/
theorem forall_dividesByZero_iff (e : Expr) :
    (∀ x ∈ e.postorder, x.dividesByZero = false) ↔
      ∀ a b, .binary .div a b ∈ e.postorder → b.exactValue ≠ 0 := by
  constructor
  · intro h a b hab
    simpa [dividesByZero] using h _ hab
  · intro h x hx
    unfold dividesByZero
    split
    · rename_i a b
      simpa using h a b hx
    · rfl

/-- A tree is one of its subtrees. -/
theorem mem_postorder_self (e : Expr) : e ∈ e.postorder := by
  cases e <;> simp [postorder]

/-- **A calculation has a value** exactly when no divisor is zero and the value of every
subtree fits. It is the exact one. -/
theorem evaluate_eq_ok_iff {e : Expr} {v : Rat} :
    e.evaluate = .ok v ↔
      (∀ a b, .binary .div a b ∈ e.postorder → b.exactValue ≠ 0) ∧
        (∀ x ∈ e.postorder, Fits x.exactValue) ∧ v = e.exactValue := by
  rw [← forall_dividesByZero_iff, evaluate_eq_findSome?]
  have hnone : e.postorder.findSome? fault? = none ↔
      (∀ x ∈ e.postorder, x.dividesByZero = false) ∧ ∀ x ∈ e.postorder, Fits x.exactValue := by
    simp only [List.findSome?_eq_none_iff, fault?_eq_none_iff, ← forall_and]
  cases h : e.postorder.findSome? fault? with
  | none =>
      obtain ⟨hdiv, hfits⟩ := hnone.mp h
      constructor
      · intro hv
        cases hv
        exact ⟨hdiv, hfits, rfl⟩
      · rintro ⟨_, _, rfl⟩
        rfl
  | some err =>
      constructor
      · intro hv
        cases hv
      · rintro ⟨hdiv, hfits, _⟩
        rw [hnone.mpr ⟨hdiv, hfits⟩] at h
        cases h

end AnswerDesk.Expr
