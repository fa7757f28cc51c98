import AnswerDesk.Proofs.Expr.Grammar

/-!
# `AnswerDesk.Proofs.Expr.Viable`: what a calculation can begin with

A sequence of kinds is viable if some expression begins with it. This file decides which
sequences are, by one scan from left to right. A scan stands at a `Place`: before an operand
or behind one, with a number of parentheses open. `Place.next?` is one step of it, and it has
no step where no expression goes on.

* `isPhrase_iff_after?`: an expression is a sequence whose scan ends behind an operand with
  no parenthesis open.
* `viable_iff_after?`: a sequence is viable when its scan does not get stuck.

That a derivation is scanned (`after?_of_derives`) goes by induction on the derivation. For
the converse the scan has to give back a derivation, although it keeps no more than a number.
`Place.Holds` says what is known of the kinds behind it. It is about the future: before an
operand, any factor would do. So each step extends it (`holds_next?`), and no step looks at
the parentheses that are still open.
-/

set_option autoImplicit false

namespace AnswerDesk.Expr

open Token (Kind)

/-- The rule of the grammar derives the kinds. -/
def IsPhrase (n : Nonterminal) (ks : List Kind) : Prop :=
  ∃ e levels, Derives n ks e levels

/-- Some expression begins with these kinds. -/
def Viable (ks : List Kind) : Prop :=
  ∃ more, IsPhrase .expression (ks ++ more)

/-- What an expression begins with may be cut short. -/
theorem Viable.of_append {ks ls : List Kind} (h : Viable (ks ++ ls)) : Viable ks := by
  obtain ⟨more, hmore⟩ := h
  exact ⟨ls ++ more, by rwa [← List.append_assoc]⟩

namespace IsPhrase

theorem number (v : Rat) : IsPhrase .factor [.number v] :=
  ⟨_, _, .number v⟩

theorem negation {ks : List Kind} (h : IsPhrase .factor ks) :
    IsPhrase .factor (.operator .sub :: ks) := by
  obtain ⟨e, levels, he⟩ := h
  exact ⟨_, _, .negation he⟩

theorem parentheses {ks : List Kind} (h : IsPhrase .expression ks) :
    IsPhrase .factor (.opening :: (ks ++ [.closing])) := by
  obtain ⟨e, levels, he⟩ := h
  exact ⟨_, _, .parentheses he⟩

theorem expression_of_factor {ks : List Kind} (h : IsPhrase .factor ks) :
    IsPhrase .expression ks := by
  obtain ⟨e, levels, he⟩ := h
  exact ⟨_, _, he.expression_of_factor⟩

/-- An expression goes on with any operator and a factor. Behind `*` or `/` the factor belongs
to the last term. -/
theorem append_operator {ks fs : List Kind} (op : Op) (h : IsPhrase .expression ks)
    (hf : IsPhrase .factor fs) : IsPhrase .expression (ks ++ .operator op :: fs) := by
  obtain ⟨e, levels, he⟩ := h
  obtain ⟨b, d, hb⟩ := hf
  have hadditive : op = .add ∨ op = .sub → IsPhrase .expression (ks ++ .operator op :: fs) :=
    fun hop => ⟨_, _, .sum hop he (.factor hb)⟩
  have hmultiplicative : op = .mul ∨ op = .div →
      IsPhrase .expression (ks ++ .operator op :: fs) := by
    intro hop
    cases he with
    | term ht => exact ⟨_, _, .term (.product hop ht hb)⟩
    | sum hsum ha ht =>
        simp only [List.append_assoc, List.cons_append]
        exact ⟨_, _, .sum hsum ha (.product hop ht hb)⟩
  cases op with
  | add => exact hadditive (.inl rfl)
  | sub => exact hadditive (.inr rfl)
  | mul => exact hmultiplicative (.inl rfl)
  | div => exact hmultiplicative (.inr rfl)

end IsPhrase

/-! ### The scan -/

/-- Where a scan of kinds stands, with that many parentheses open. -/
inductive Place where
  /-- An operand comes next. -/
  | before (opened : Nat)
  /-- An operand has ended. -/
  | behind (opened : Nat)
  deriving Repr, DecidableEq

namespace Place

/-- The place behind one more kind. The end mark is no part of an expression. -/
def next? : Place → Kind → Option Place
  | .before n, .number _ => some (.behind n)
  | .before n, .operator .sub => some (.before n)
  | .before n, .opening => some (.before (n + 1))
  | .behind n, .operator _ => some (.before n)
  | .behind (n + 1), .closing => some (.behind n)
  | _, _ => none

/-- The place behind several kinds. -/
def after? (p : Place) (ks : List Kind) : Option Place :=
  ks.foldlM next? p

@[simp] theorem after?_nil (p : Place) : p.after? [] = some p :=
  rfl

@[simp] theorem after?_cons (p : Place) (k : Kind) (ks : List Kind) :
    p.after? (k :: ks) = (p.next? k).bind (·.after? ks) :=
  List.foldlM_cons

@[simp] theorem after?_append (p : Place) (ks ls : List Kind) :
    p.after? (ks ++ ls) = (p.after? ks).bind (·.after? ls) :=
  List.foldlM_append

end Place

/-- A phrase takes the scan from before an operand to behind it, whatever parentheses are
open. -/
theorem after?_of_derives {n : Nonterminal} {ks : List Kind} {e : Expr} {levels : Nat}
    (h : Derives n ks e levels) :
    ∀ opened, (Place.before opened).after? ks = some (.behind opened) := by
  induction h with
  | number v => exact fun _ => rfl
  | negation _ ih =>
      intro opened
      simp [Place.next?, ih]
  | parentheses _ ih =>
      intro opened
      simp [Place.next?, ih]
  | factor _ ih => exact ih
  | product _ _ _ iha ihb =>
      intro opened
      simp [Place.next?, iha, ihb]
  | term _ ih => exact ih
  | sum _ _ _ iha ihb =>
      intro opened
      simp [Place.next?, iha, ihb]

/-! ### What the place says about the kinds behind it -/

/-- The kinds end with an expression, inside that many open parentheses. A closing one would
make a factor of the last of them. -/
def EndsInside : Nat → List Kind → Prop
  | 0, ks => IsPhrase .expression ks
  | opened + 1, ks =>
    ∃ front inner, ks = front ++ .opening :: inner ∧ IsPhrase .expression inner ∧
      ∀ fs, IsPhrase .factor fs → EndsInside opened (front ++ fs)

/-- What is known of the kinds that lead to a place. Before an operand, any factor completes
them. -/
def Place.Holds : Place → List Kind → Prop
  | .before opened, ks => ∀ fs, IsPhrase .factor fs → EndsInside opened (ks ++ fs)
  | .behind opened, ks => EndsInside opened ks

/-- The innermost expression goes on with an operator and a factor. -/
theorem EndsInside.append_operator {opened : Nat} {ks fs : List Kind} (op : Op)
    (h : EndsInside opened ks) (hf : IsPhrase .factor fs) :
    EndsInside opened (ks ++ .operator op :: fs) := by
  cases opened with
  | zero => exact IsPhrase.append_operator op h hf
  | succ opened =>
      obtain ⟨front, inner, rfl, hinner, hfront⟩ := h
      exact ⟨front, inner ++ .operator op :: fs, by simp, hinner.append_operator op hf, hfront⟩

/-- A closing parenthesis makes a factor of the innermost expression. -/
theorem EndsInside.append_closing {opened : Nat} {ks : List Kind}
    (h : EndsInside (opened + 1) ks) : EndsInside opened (ks ++ [.closing]) := by
  obtain ⟨front, inner, rfl, hinner, hfront⟩ := h
  have hfactor := hfront _ hinner.parentheses
  simpa using hfactor

/-- One step of the scan keeps what is known. -/
theorem holds_next? {p q : Place} {ks : List Kind} {k : Kind} (h : p.Holds ks)
    (hstep : p.next? k = some q) : q.Holds (ks ++ [k]) := by
  fun_cases Place.next? p k with
  | case1 opened v =>
      cases hstep
      exact h _ (.number v)
  | case2 opened =>
      cases hstep
      intro fs hf
      have hnegated := h _ hf.negation
      simpa using hnegated
  | case3 opened =>
      cases hstep
      intro fs hf
      exact ⟨ks, fs, by simp, hf.expression_of_factor, h⟩
  | case4 opened op =>
      cases hstep
      intro fs hf
      simpa using h.append_operator op hf
  | case5 opened =>
      cases hstep
      exact h.append_closing
  | case6 => simp_all [Place.next?]

/-- What is known at the start of a scan is known behind it. -/
theorem holds_after? {q : Place} {ls : List Kind} :
    ∀ {p : Place} {ks : List Kind}, p.Holds ks → p.after? ls = some q → q.Holds (ks ++ ls) := by
  induction ls with
  | nil =>
      intro p ks h hscan
      cases hscan
      simpa using h
  | cons k ls ih =>
      intro p ks h hscan
      rw [Place.after?_cons] at hscan
      obtain ⟨p', hstep, hscan⟩ := Option.bind_eq_some_iff.mp hscan
      simpa using ih (holds_next? h hstep) hscan

/-- Before the first operand, any factor is an expression. -/
theorem holds_nil : (Place.before 0).Holds [] :=
  fun _ hf => hf.expression_of_factor

/-- Parentheses that are open can be closed. -/
theorem EndsInside.viable {opened : Nat} {ks : List Kind} (h : EndsInside opened ks) :
    Viable ks := by
  induction opened generalizing ks with
  | zero => exact ⟨[], by rwa [List.append_nil]⟩
  | succ opened ih => exact (ih h.append_closing).of_append

/-- Whatever is scanned is viable: an operand that is missing can be supplied. -/
theorem Place.Holds.viable {p : Place} {ks : List Kind} (h : p.Holds ks) : Viable ks := by
  cases p with
  | before opened =>
      have hnumber : EndsInside opened (ks ++ [.number 0]) := h _ (.number 0)
      exact hnumber.viable.of_append
  | behind opened => exact EndsInside.viable h

/-- **An expression is a sequence that is scanned to behind an operand, with no parenthesis
open.** -/
theorem isPhrase_iff_after? {ks : List Kind} :
    IsPhrase .expression ks ↔ (Place.before 0).after? ks = some (.behind 0) := by
  constructor
  · rintro ⟨e, levels, he⟩
    exact after?_of_derives he 0
  · intro h
    have hbehind := holds_after? holds_nil h
    exact hbehind

/-- **A sequence is viable when it is scanned at all.** -/
theorem viable_iff_after? {ks : List Kind} :
    Viable ks ↔ ∃ p, (Place.before 0).after? ks = some p := by
  constructor
  · rintro ⟨more, e, levels, he⟩
    have hscan := after?_of_derives he 0
    rw [Place.after?_append] at hscan
    obtain ⟨p, hp, -⟩ := Option.bind_eq_some_iff.mp hscan
    exact ⟨p, hp⟩
  · rintro ⟨p, hp⟩
    exact (holds_after? holds_nil hp).viable

end AnswerDesk.Expr
