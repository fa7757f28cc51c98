import AnswerDesk.Proofs.Table.Lines

/-!
# `AnswerDesk.Proofs.Table.Reports`: every line of a table is accounted for

Lines of a table may be left out, and answers may be replaced, but not in silence. This file says
what is reported of a line, given the lines before it.

* `Reports`: nothing is reported of a blank line, a warning of a malformed one, and the entry of any
  other. A second warning follows if a line before it is about the same question, with the answer of
  the last such line, which is the one that is replaced.
* `Reported`: the reports of all lines, one after the other.

`Reading.line_cases` says what one line does, in all of its cases. The rest follows from it. The
table that is read so far holds what the last lines say (`lookup_lines_eq_some_iff`), so the answer
that is replaced can be told from the lines alone (`exists_reports_of_line`). A key is new exactly
when no answer is replaced, which gives the size of the table (`size_add_countP_lines`).

`every_line_reported` is the main result.
-/

set_option autoImplicit false

namespace AnswerDesk.Table

open Journal (Entry)

/-! ### The reports of a line -/

/-- What is reported of a line with these lines before it, oldest entry first. Blank lines count for
the number of a line. -/
inductive Reports (before : List (List Char)) : (line : List Char) → List Entry → Prop
  | blank {line : List Char} (hblank : Text.trim line = []) : Reports before line []
  | malformed {line : List Char} (hline : Text.trim line ≠ []) (hcount : line.count '=' ≠ 1) :
      Reports before line [malformedReport (before.length + 1) line]
  | loaded {line : List Char} {k a : String} (hentry : Line.Says line k a)
      (hnew : ¬ Answered before k) : Reports before line [loadedReport k a]
  | replaced {line : List Char} {k a old : String} (hentry : Line.Says line k a)
      (hold : LastSays before k old) :
      Reports before line [loadedReport k a, replacedReport k old]

/-- What is reported of all these lines, oldest entry first. -/
inductive Reported : List (List Char) → List Entry → Prop
  | nil : Reported [] []
  | concat {lines : List (List Char)} {line : List Char} {log reports : List Entry}
      (hlines : Reported lines log) (hline : Reports lines line reports) :
      Reported (lines ++ [line]) (log ++ reports)

/-! ### The lines so far -/

/-- The reports of a line, when the table holds what the lines before it say. -/
theorem exists_reports_of_line {before : List (List Char)} {r : Reading}
    (hknown : ∀ k a, r.table.lookup k = some a ↔ LastSays before k a) (line : List Char) :
    ∃ reports, Reports before line reports ∧
      (r.line line (before.length + 1)).reports = reports.reverse ++ r.reports := by
  obtain ⟨hblank, heq⟩ | ⟨hblank, hcount, heq⟩ | ⟨k, a, hentry, ⟨hnone, heq⟩ | ⟨old, hold, heq⟩⟩ :=
    r.line_cases line (before.length + 1)
  · exact ⟨[], .blank hblank, by rw [heq]; rfl⟩
  · exact ⟨_, .malformed hblank hcount, by rw [heq]; rfl⟩
  · -- Nothing is stored under the key, so no line before this one is about it.
    have hnew : ¬ Answered before k := by
      intro hanswered
      obtain ⟨b, hb⟩ := exists_lastSays hanswered
      rw [(hknown k b).mpr hb] at hnone
      cases hnone
    exact ⟨_, .loaded hentry hnew, by rw [heq]; rfl⟩
  · exact ⟨_, .replaced hentry ((hknown k old).mp hold), by rw [heq]; rfl⟩

/-- **The reports of all lines.** Induction on the last line. The lines before it have been read by
then, and it stands behind all of them. -/
theorem reported_lines (lines : List (List Char)) :
    Reported lines (Reading.lines ⟨empty, []⟩ (lines.zipIdx 1)).reports.reverse := by
  induction lines using List.reverseRecOn with
  | nil => exact .nil
  | append_singleton lines line ih =>
      -- Lines are numbered from one, so the number of the last one is that of all lines.
      have hrun : Reading.lines ⟨empty, []⟩ ((lines ++ [line]).zipIdx 1) =
          (Reading.lines ⟨empty, []⟩ (lines.zipIdx 1)).line line (lines.length + 1) := by
        rw [List.zipIdx_append, Reading.lines, List.foldl_append, Nat.add_comm]
        rfl
      have hknown : ∀ k a, (Reading.lines ⟨empty, []⟩ (lines.zipIdx 1)).table.lookup k = some a ↔
          LastSays lines k a := by
        intro k a
        rw [lookup_lines_eq_some_iff, List.zipIdx_map_fst]
      obtain ⟨reports, hreports, heq⟩ := exists_reports_of_line hknown line
      rw [hrun, heq, List.reverse_append, List.reverse_reverse]
      exact .concat ih hreports

/-! ### Counting -/

/-- The entry is one of a question that was loaded: no other is of this level. -/
def isLoaded (e : Entry) : Bool :=
  e.level = .debug

/-- The entry warns of a malformed line. -/
def warnsOfLine (e : Entry) : Bool :=
  e.level = .warn && "ligne ".toList.isPrefixOf e.message.toList

/-- The entry warns of an answer that was replaced. -/
def warnsOfQuestion (e : Entry) : Bool :=
  e.level = .warn && "question ".toList.isPrefixOf e.message.toList

/-- A warning of a malformed line is nothing else. -/
@[simp] theorem kind_malformedReport (number : Nat) (line : List Char) :
    isLoaded (malformedReport number line) = false ∧
      warnsOfLine (malformedReport number line) = true ∧
      warnsOfQuestion (malformedReport number line) = false := by
  simp [isLoaded, warnsOfLine, warnsOfQuestion, malformedReport, List.isPrefixOf]

/-- An entry of a question that was loaded is nothing else. -/
@[simp] theorem kind_loadedReport (k a : String) :
    isLoaded (loadedReport k a) = true ∧ warnsOfLine (loadedReport k a) = false ∧
      warnsOfQuestion (loadedReport k a) = false :=
  ⟨rfl, rfl, rfl⟩

/-- A warning of an answer that was replaced is nothing else. -/
@[simp] theorem kind_replacedReport (k old : String) :
    isLoaded (replacedReport k old) = false ∧ warnsOfLine (replacedReport k old) = false ∧
      warnsOfQuestion (replacedReport k old) = true := by
  simp [isLoaded, warnsOfLine, warnsOfQuestion, replacedReport, List.isPrefixOf]

/-- One line is loaded or malformed, unless it is blank. -/
theorem Reports.countP_eq {before : List (List Char)} {line : List Char} {reports : List Entry}
    (h : Reports before line reports) :
    reports.countP isLoaded + reports.countP warnsOfLine =
      if Text.trim line = [] then 0 else 1 := by
  cases h with
  | blank hblank => simp [hblank]
  | malformed hline _ => simp [hline]
  | loaded hentry _ => simp [hentry.trim_ne_nil]
  | replaced hentry _ => simp [hentry.trim_ne_nil]

/-- As many lines are loaded or malformed as are not blank. -/
theorem Reported.countP_eq {lines : List (List Char)} {log : List Entry} (h : Reported lines log) :
    log.countP isLoaded + log.countP warnsOfLine = lines.countP (Text.trim · ≠ []) := by
  induction h with
  | nil => rfl
  | @concat lines line log reports _ hline ih =>
      have hlast : [line].countP (Text.trim · ≠ []) = if Text.trim line = [] then 0 else 1 := by
        by_cases hblank : Text.trim line = [] <;> simp [hblank]
      rw [List.countP_append, List.countP_append, List.countP_append, hlast, ← hline.countP_eq]
      omega

/-- A new key makes the table larger. -/
theorem size_insert (t : Table) (k a : String) :
    (t.insert k a).size = if (t.lookup k).isSome then t.size else t.size + 1 := by
  rw [size, insert, Std.ExtTreeMap.size_insert, Std.ExtTreeMap.contains_eq_isSome_getElem?]
  rfl

/-- The table has as many entries as were loaded, but for those that were replaced. One line keeps
it so. -/
theorem size_add_countP_line {r : Reading}
    (h : r.table.size + r.reports.countP warnsOfQuestion = r.reports.countP isLoaded)
    (line : List Char) (number : Nat) :
    (r.line line number).table.size + (r.line line number).reports.countP warnsOfQuestion =
      (r.line line number).reports.countP isLoaded := by
  obtain ⟨-, heq⟩ | ⟨-, -, heq⟩ | ⟨k, a, -, ⟨hnone, heq⟩ | ⟨old, hold, heq⟩⟩ :=
    r.line_cases line number
  · rwa [heq]
  · rw [heq]
    simpa using h
  · -- One entry more, and one more that was loaded.
    have hsize : (r.table.insert k a).size = r.table.size + 1 := by simp [size_insert, hnone]
    rw [heq]
    simp only [hsize, List.countP_cons, kind_loadedReport, Bool.false_eq_true, if_true, if_false]
    omega
  · -- As many entries as before, and one more that was loaded and replaced another.
    have hsize : (r.table.insert k a).size = r.table.size := by simp [size_insert, hold]
    rw [heq]
    simp only [hsize, List.countP_cons, kind_loadedReport, kind_replacedReport,
      Bool.false_eq_true, if_true, if_false]
    omega

/-- After all lines the table has as many entries as were loaded, but for those that were
replaced. -/
theorem size_add_countP_lines (numbered : List (List Char × Nat)) :
    (Reading.lines ⟨empty, []⟩ numbered).table.size +
        (Reading.lines ⟨empty, []⟩ numbered).reports.countP warnsOfQuestion =
      (Reading.lines ⟨empty, []⟩ numbered).reports.countP isLoaded :=
  List.foldlRecOn (motive := fun r : Reading =>
      r.table.size + r.reports.countP warnsOfQuestion = r.reports.countP isLoaded)
    _ _ rfl (fun _ h p _ => size_add_countP_line h p.1 p.2)

/-- **Every line of a table is accounted for.** Let a table be read from any text. The reports are
those of its lines, in order. A blank line has none. A malformed line has a warning, with its number
and its exact text, and any other has an entry with the key and the answer that are stored. A second
warning follows that entry if and only if a line before it was about the same question, and names the
answer of the last such line.

What is stored in the end is what the last line about a question says. So as many lines are loaded or
malformed as are not blank. And the table has as many entries as questions were loaded, but for the
answers that were replaced. -/
theorem every_line_reported (content : String) :
    let lines := Text.lines content.toList
    let table := (read content).1
    let log := (read content).2
    Reported lines log ∧
    (∀ k a, table.lookup k = some a ↔ LastSays lines k a) ∧
    log.countP isLoaded + log.countP warnsOfLine = lines.countP (Text.trim · ≠ []) ∧
    table.size + log.countP warnsOfQuestion = log.countP isLoaded := by
  intro lines table log
  have hreported : Reported lines log := reported_lines lines
  refine ⟨hreported, fun k a => lookup_read_eq_some_iff, hreported.countP_eq, ?_⟩
  -- The log has the reports the other way round, which makes no difference when they are counted.
  have hsize := size_add_countP_lines (lines.zipIdx 1)
  rw [← List.countP_reverse, ← List.countP_reverse (p := isLoaded)] at hsize
  exact hsize

/-- Of three lines about one question two replace an answer, the one before it. The blank line counts
for the number of the malformed one. -/
example : (read "x=1\n\n X = 2\nb\nx=3").2 =
    [loadedReport "x" "1", loadedReport "x" "2", replacedReport "x" "1",
      malformedReport 4 "b".toList, loadedReport "x" "3", replacedReport "x" "2"] := by
  decide +kernel

end AnswerDesk.Table
