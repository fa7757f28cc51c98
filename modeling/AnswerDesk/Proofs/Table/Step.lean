import AnswerDesk.Proofs.Text.Normal
import AnswerDesk.Table

/-!
# `AnswerDesk.Proofs.Table.Step`: what one line of a table does

A table is read line by line. This file says what a line says, and what becomes of a table that is
being read when it is taken in.

* `Line.Says`: a line with one `=` says that the question before it has the answer behind it. Blank
  lines and malformed ones say nothing.
* `Reading.line_cases`: all that a line can do, to the table and to the reports.
  `Reading.table_line_cases` leaves the reports out.

Nothing else is known of a step outside of this file.
-/

set_option autoImplicit false

namespace AnswerDesk.Table

open Journal (Entry)

/-! ### What one line says -/

/-- There is exactly one `=` in the line. The question in front of it has this key, and the
answer behind it is this one when it is trimmed. -/
inductive Line.Says : List Char → String → String → Prop
  /-- A question, the `=`, and an answer. -/
  | intro {question answer : List Char} (hquestion : '=' ∉ question) (hanswer : '=' ∉ answer) :
    Line.Says (question ++ '=' :: answer) (key question) (String.ofList (Text.trim answer))

/-- A text splits in two at a character that occurs once. -/
theorem splitOn_eq_pair_iff {cs xs ys : List Char} {c : Char} :
    cs.splitOn c = [xs, ys] ↔ cs = xs ++ c :: ys ∧ c ∉ xs ∧ c ∉ ys := by
  constructor
  · intro h
    by_cases hc : c ∈ cs
    · obtain ⟨us, vs, rfl, hus⟩ := List.eq_append_cons_of_mem hc
      rw [List.splitOn_append_cons_self, List.splitOn_eq_singleton hus] at h
      by_cases hvs : c ∈ vs
      · -- A second occurrence makes a third part.
        obtain ⟨us', vs', rfl, hus'⟩ := List.eq_append_cons_of_mem hvs
        rw [List.splitOn_append_cons_self, List.splitOn_eq_singleton hus'] at h
        simp at h
      · rw [List.splitOn_eq_singleton hvs] at h
        obtain ⟨rfl, rfl⟩ : us = xs ∧ vs = ys := by simpa using h
        exact ⟨rfl, hus, hvs⟩
    · rw [List.splitOn_eq_singleton hc] at h
      simp at h
  · rintro ⟨rfl, hxs, hys⟩
    rw [List.splitOn_append_cons_self, List.splitOn_eq_singleton hxs,
      List.splitOn_eq_singleton hys]
    rfl

/-- A line that says something is not blank: there is a `=` in it. -/
theorem Line.Says.trim_ne_nil {line : List Char} {k a : String} (h : Line.Says line k a) :
    Text.trim line ≠ [] := by
  cases h
  exact List.ne_nil_of_mem (Text.mem_trim_of_isBlank (c := '=') (by simp) (by decide))

/-- The reader takes in what the line says. -/
theorem Line.ofChars_eq_entry_iff {line : List Char} {k a : String} :
    Line.ofChars line = .entry k a ↔ Line.Says line k a := by
  constructor
  · intro h
    unfold Line.ofChars at h
    split at h
    · cases h
    · split at h
      · rename_i question answer hsplit
        obtain ⟨hline, hquestion, hanswer⟩ := splitOn_eq_pair_iff.mp hsplit
        cases h
        rw [hline]
        exact .intro hquestion hanswer
      · cases h
  · intro h
    have hblank : (Text.trim line).isEmpty = false := by simpa using h.trim_ne_nil
    cases h with
    | @intro question answer hquestion hanswer =>
        have hsplit := splitOn_eq_pair_iff.mpr ⟨rfl, hquestion, hanswer⟩
        simp only [Line.ofChars, hblank, Bool.false_eq_true, if_false, hsplit]

/-- A line says one thing. -/
theorem Line.Says.unique {line : List Char} {k a k' a' : String} (h : Line.Says line k a)
    (h' : Line.Says line k' a') : k = k' ∧ a = a' := by
  have heq := (Line.ofChars_eq_entry_iff.mpr h).symm.trans (Line.ofChars_eq_entry_iff.mpr h')
  cases heq
  exact ⟨rfl, rfl⟩

/-- A line says something exactly when one `=` is in it. -/
theorem exists_says_iff {line : List Char} :
    (∃ k a, Line.Says line k a) ↔ line.count '=' = 1 := by
  constructor
  · rintro ⟨k, a, h⟩
    cases h with
    | intro hquestion hanswer =>
        rw [List.count_append, List.count_cons_self, List.count_eq_zero_of_not_mem hquestion,
          List.count_eq_zero_of_not_mem hanswer]
  · intro hcount
    have hmem : '=' ∈ line := List.count_pos_iff.mp (by omega)
    obtain ⟨question, answer, rfl, hquestion⟩ := List.eq_append_cons_of_mem hmem
    rw [List.count_append, List.count_cons_self, List.count_eq_zero_of_not_mem hquestion] at hcount
    have hanswer : '=' ∉ answer := List.count_eq_zero.mp (by omega)
    exact ⟨_, _, .intro hquestion hanswer⟩

/-- A line that is taken for malformed is not blank, and does not have one `=`. -/
theorem Line.of_ofChars_eq_malformed {line : List Char} (h : Line.ofChars line = .malformed) :
    Text.trim line ≠ [] ∧ line.count '=' ≠ 1 := by
  constructor
  · intro hblank
    simp [Line.ofChars, hblank] at h
  · intro hcount
    obtain ⟨k, a, hentry⟩ := exists_says_iff.mpr hcount
    rw [Line.ofChars_eq_entry_iff.mpr hentry] at h
    cases h

/-- A line that is taken for blank is blank. -/
theorem Line.of_ofChars_eq_blank {line : List Char} (h : Line.ofChars line = .blank) :
    Text.trim line = [] := by
  unfold Line.ofChars at h
  split at h
  · rename_i hblank
    exact List.isEmpty_iff.mp hblank
  · split at h <;> cases h

/-! ### What is reported -/

/-- The warning that a line is malformed, with its number and with the line as it stands. -/
def malformedReport (number : Nat) (line : List Char) : Entry where
  level := .warn
  topic := .questions
  message := "ligne " ++ toString number ++ " ignorée (format question=réponse attendu) : '" ++
    String.ofList line ++ "'"

/-- The entry of a question that was loaded. -/
def loadedReport (key answer : String) : Entry where
  level := .debug
  topic := .questions
  message := "question chargée : '" ++ key ++ "' = '" ++ answer ++ "'"

/-- The warning that an answer was replaced. -/
def replacedReport (key old : String) : Entry where
  level := .warn
  topic := .questions
  message := "question '" ++ key ++ "' en double, '" ++ old ++ "' remplacée"

/-! ### What one line does -/

/-- **What one line does.** It is blank, and nothing happens. Or it is malformed, and a warning is
all that happens. Or it says something, and that is stored and reported. If an answer is replaced,
there is a warning too. -/
theorem Reading.line_cases (r : Reading) (line : List Char) (number : Nat) :
    (Text.trim line = [] ∧ r.line line number = r) ∨
    (Text.trim line ≠ [] ∧ line.count '=' ≠ 1 ∧
      r.line line number = ⟨r.table, malformedReport number line :: r.reports⟩) ∨
    ∃ k a, Line.Says line k a ∧
      ((r.table.lookup k = none ∧
        r.line line number = ⟨r.table.insert k a, loadedReport k a :: r.reports⟩) ∨
      ∃ old, r.table.lookup k = some old ∧ r.line line number =
        ⟨r.table.insert k a, replacedReport k old :: loadedReport k a :: r.reports⟩) := by
  unfold Reading.line
  cases hline : Line.ofChars line with
  | blank => exact .inl ⟨Line.of_ofChars_eq_blank hline, rfl⟩
  | malformed =>
      obtain ⟨hblank, hcount⟩ := Line.of_ofChars_eq_malformed hline
      exact .inr (.inl ⟨hblank, hcount, rfl⟩)
  | entry k a =>
      refine .inr (.inr ⟨k, a, Line.ofChars_eq_entry_iff.mp hline, ?_⟩)
      cases hlookup : r.table.lookup k with
      | none => exact .inl ⟨rfl, by simp only [hlookup]; rfl⟩
      | some old => exact .inr ⟨old, rfl, by simp only [hlookup]; rfl⟩

/-- What one line does to the table. It stores what it says, or else it says nothing and leaves the
table alone. -/
theorem Reading.table_line_cases (r : Reading) (line : List Char) (number : Nat) :
    ((∀ k a, ¬ Line.Says line k a) ∧ (r.line line number).table = r.table) ∨
    ∃ k a, Line.Says line k a ∧ (r.line line number).table = r.table.insert k a := by
  obtain ⟨hblank, heq⟩ | ⟨-, hcount, heq⟩ | ⟨k, a, hentry, ⟨-, heq⟩ | ⟨old, -, heq⟩⟩ :=
    r.line_cases line number
  · exact .inl ⟨fun k a h => h.trim_ne_nil hblank, by rw [heq]⟩
  · exact .inl ⟨fun k a h => hcount (exists_says_iff.mp ⟨k, a, h⟩), by rw [heq]⟩
  · exact .inr ⟨k, a, hentry, by rw [heq]⟩
  · exact .inr ⟨k, a, hentry, by rw [heq]⟩

end AnswerDesk.Table
