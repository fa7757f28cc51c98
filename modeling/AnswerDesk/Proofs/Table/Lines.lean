import AnswerDesk.Proofs.Resolver
import AnswerDesk.Proofs.Table
import Mathlib.Data.Set.Card

/-!
# `AnswerDesk.Proofs.Table.Lines`: what the lines of a table say together

A table is read line by line, and each line may overwrite what was stored before. This file
says what is in the table in the end, from all of its lines at once.

* `Answered`: one of the lines is about a question, which means that it says an answer to it
  (`Line.Says`).
* `LastSays`: the last line about a question says so. What is stored under a key is what the
  last line about it says (`lookup_read_eq_some_iff`), and nothing is stored under a key that
  no line is about (`lookup_read_eq_none_iff`).

The step is one line: it stores what it says and leaves the other keys alone
(`lookup_line_of_says`, `lookup_line_of_not_says`). From the last line about a key on, nothing
is stored under that key again, which is all that the run adds (`lookup_lines_of_lastSays`).

`question_answered_by_last_line` is the main result. It goes from the text of the table to the
answer to a question.
-/

set_option autoImplicit false

namespace AnswerDesk.Table

/-! ### One line -/

/-- What a line says is stored. -/
theorem lookup_line_of_says {line : List Char} {k a : String} (h : Line.Says line k a)
    (r : Reading) (number : Nat) : (r.line line number).table.lookup k = some a := by
  obtain ⟨hnot, -⟩ | ⟨k', a', hentry, heq⟩ := r.table_line_cases line number
  · exact absurd h (hnot k a)
  · obtain ⟨rfl, rfl⟩ := h.unique hentry
    rw [heq, lookup_insert, if_pos rfl]

/-- What is stored under a key that the line is not about stays. -/
theorem lookup_line_of_not_says {line : List Char} {k : String}
    (h : ∀ a, ¬ Line.Says line k a) (r : Reading) (number : Nat) :
    (r.line line number).table.lookup k = r.table.lookup k := by
  obtain ⟨-, heq⟩ | ⟨k', a, hentry, heq⟩ := r.table_line_cases line number
  · rw [heq]
  · have hne : k' ≠ k := by
      rintro rfl
      exact h a hentry
    rw [heq, lookup_insert, if_neg hne]

/-! ### All lines -/

/-- One of these lines is about the question with this key. -/
def Answered (lines : List (List Char)) (k : String) : Prop :=
  ∃ line ∈ lines, ∃ a, Line.Says line k a

/-- The last of these lines that is about the question with this key gives this answer. -/
def LastSays (lines : List (List Char)) (k a : String) : Prop :=
  ∃ before line after, lines = before ++ line :: after ∧ Line.Says line k a ∧
    ¬ Answered after k

/-- Among lines that are about a question, one is the last. -/
theorem exists_lastSays {lines : List (List Char)} {k : String} (h : Answered lines k) :
    ∃ a, LastSays lines k a := by
  induction lines with
  | nil =>
      obtain ⟨line, hmem, -⟩ := h
      simp at hmem
  | cons line lines ih =>
      -- The first line is the last one that says something only if no later one does.
      by_cases hlater : Answered lines k
      · obtain ⟨a, before, last, after, rfl, hlast⟩ := ih hlater
        exact ⟨a, line :: before, last, after, rfl, hlast⟩
      · obtain ⟨l, hmem, a, hsays⟩ := h
        rcases List.mem_cons.mp hmem with rfl | hmem
        · exact ⟨a, [], l, lines, rfl, hsays, hlater⟩
        · exact absurd ⟨l, hmem, a, hsays⟩ hlater

/-- What is read of lines with their numbers, in order. -/
def Reading.lines (r : Reading) (numbered : List (List Char × Nat)) : Reading :=
  numbered.foldl (fun r p => r.line p.1 p.2) r

/-- A table is what is read of its lines, with nothing known before. -/
theorem read_table (content : String) :
    (read content).1 = (Reading.lines ⟨empty, []⟩ ((Text.lines content.toList).zipIdx 1)).table :=
  rfl

/-- Lines about other questions leave what is stored under a key. -/
theorem lookup_lines_of_not_answered {k : String} {numbered : List (List Char × Nat)}
    (h : ¬ Answered (numbered.map Prod.fst) k) (r : Reading) :
    (r.lines numbered).table.lookup k = r.table.lookup k := by
  induction numbered generalizing r with
  | nil => rfl
  | cons p numbered ih =>
      have hfirst : ∀ a, ¬ Line.Says p.1 k a := fun a ha => h ⟨p.1, by simp, a, ha⟩
      have hrest : ¬ Answered (numbered.map Prod.fst) k := by
        rintro ⟨line, hmem, hsays⟩
        exact h ⟨line, by simp [hmem], hsays⟩
      show ((r.line p.1 p.2).lines numbered).table.lookup k = _
      rw [ih hrest, lookup_line_of_not_says hfirst]

/-- After all lines, the answer of the last one about a question is stored under its key. -/
theorem lookup_lines_of_lastSays {k a : String} {numbered : List (List Char × Nat)}
    (h : LastSays (numbered.map Prod.fst) k a) (r : Reading) :
    (r.lines numbered).table.lookup k = some a := by
  obtain ⟨before, line, after, hsplit, hsays, hlast⟩ := h
  obtain ⟨ps, qs, rfl, -, hqs⟩ := List.map_eq_append_iff.mp hsplit
  obtain ⟨p, qs, rfl, rfl, rfl⟩ := List.map_eq_cons_iff.mp hqs
  have hrun : r.lines (ps ++ p :: qs) = ((r.lines ps).line p.1 p.2).lines qs := by
    simp only [Reading.lines, List.foldl_append, List.foldl_cons]
  rw [hrun, lookup_lines_of_not_answered hlast, lookup_line_of_says hsays]

/-- After all lines, what is stored under a key is what the last line about it says. -/
theorem lookup_lines_eq_some_iff {k a : String} {numbered : List (List Char × Nat)} :
    (Reading.lines ⟨empty, []⟩ numbered).table.lookup k = some a ↔
      LastSays (numbered.map Prod.fst) k a := by
  constructor
  · intro h
    by_cases hanswered : Answered (numbered.map Prod.fst) k
    · -- Some line is the last one, and what it says is what is stored.
      obtain ⟨b, hb⟩ := exists_lastSays hanswered
      have hab := (lookup_lines_of_lastSays hb _).symm.trans h
      cases hab
      exact hb
    · rw [lookup_lines_of_not_answered hanswered] at h
      simp [lookup, empty] at h
  · intro h
    exact lookup_lines_of_lastSays h _

/-- **A key is stored when a line is about it**, with the answer of the last such line. -/
theorem lookup_read_eq_some_iff {content k a : String} :
    (read content).1.lookup k = some a ↔ LastSays (Text.lines content.toList) k a := by
  rw [read_table, lookup_lines_eq_some_iff, List.zipIdx_map_fst]

/-- Nothing is stored under a key that no line is about. -/
theorem lookup_read_eq_none_iff {content k : String} :
    (read content).1.lookup k = none ↔ ¬ Answered (Text.lines content.toList) k := by
  rw [Option.eq_none_iff_forall_ne_some]
  constructor
  · intro h hanswered
    obtain ⟨a, ha⟩ := exists_lastSays hanswered
    exact h a (lookup_read_eq_some_iff.mpr ha)
  · intro h a ha
    obtain ⟨before, line, after, hsplit, hsays, -⟩ := lookup_read_eq_some_iff.mp ha
    exact h ⟨line, by simp [hsplit], a, hsays⟩

/-! ### The keys -/

/-- The keys of a table that was read are those that a line is about. -/
theorem mem_questions_read_iff {content k : String} :
    k ∈ (read content).1.questions ↔ Answered (Text.lines content.toList) k := by
  rw [mem_questions_iff, ← Option.isSome_iff_exists, ← Option.ne_none_iff_isSome, Ne,
    lookup_read_eq_none_iff, not_not]

/-- Keys come in the order of their code points, each once. -/
theorem questions_pairwise_lt (t : Table) : t.questions.Pairwise (· < ·) := by
  have hordered := Std.ExtTreeMap.ordered_keys (t := t.answers)
  exact hordered.imp fun h => compareOfLessAndEq_eq_lt.mp h

/-- The size of a table is the number of its keys. -/
theorem size_eq_ncard_questions (t : Table) : t.size = {k | k ∈ t.questions}.ncard := by
  have hnodup : t.questions.Nodup := by
    refine (questions_pairwise_lt t).imp ?_
    rintro k _ hlt rfl
    exact String.lt_irrefl k hlt
  rw [← List.coe_toFinset, Set.ncard_coe_finset, List.toFinset_card_of_nodup hnodup]
  exact Std.ExtTreeMap.length_keys.symm

/-! ### Questions -/

/-- **A question is answered by the last line about it.** Let a table be read from any text,
and take any limits and any question that is not blank. If some line is about the question,
then its answer is what the last such line says, whatever the question looks like otherwise.
If none is, the question is not known, and is answered as over a table that knows nothing.

The table has as many entries as there are keys with a line about them. These keys are its
questions, and they come in the order of their code points. -/
theorem question_answered_by_last_line (content : String) (limits : Limits) :
    let lines := Text.lines content.toList
    let table := (read content).1
    (∀ question : String, Text.trim question.toList ≠ [] →
      let k := String.ofList (Text.lowercase (Text.trim question.toList))
      (Answered lines k → ∃ a, LastSays lines k a ∧ table.answer question = some a ∧
        table.lookup k = some a ∧ (⟨table.lookup, limits⟩ : Resolver).resolve question = .ok a) ∧
      (¬ Answered lines k → table.answer question = none ∧ table.lookup k = none ∧
        (⟨table.lookup, limits⟩ : Resolver).resolve question
          = (⟨empty.lookup, limits⟩ : Resolver).resolve question)) ∧
    table.size = {k | Answered lines k}.ncard ∧
    (∀ k, k ∈ table.questions ↔ Answered lines k) ∧ table.questions.Pairwise (· < ·) := by
  intro lines table
  refine ⟨fun question hblank => ⟨fun hanswered => ?_, fun hanswered => ?_⟩, ?_,
    fun k => mem_questions_read_iff, questions_pairwise_lt table⟩
  · obtain ⟨a, ha⟩ := exists_lastSays hanswered
    have hlookup := lookup_read_eq_some_iff.mpr ha
    exact ⟨a, ha, hlookup, hlookup, Resolver.resolve_of_hit hblank hlookup⟩
  · have hlookup := lookup_read_eq_none_iff.mpr hanswered
    have hempty : ∀ k, empty.lookup k = none := fun k => by simp [lookup, empty]
    refine ⟨hlookup, hlookup, ?_⟩
    rw [Resolver.resolve_of_miss hblank hlookup, Resolver.resolve_of_miss hblank (hempty _)]
  · have hkeys : {k | k ∈ table.questions} = {k | Answered lines k} :=
      Set.ext fun k => mem_questions_read_iff
    rw [size_eq_ncard_questions, hkeys]

/-- Two lines are about `1/0`, which is a division by zero, and they differ in blanks and in how
they end. The later one answers. -/
theorem later_line_answers_division :
    let content := "1/0=un\n\n\u00a01/0 = Deux \r\n1/0=a=b"
    let table := (read content).1
    Text.trim " 1/0".toList ≠ [] ∧ Answered (Text.lines content.toList) "1/0" ∧
      table.answer " 1/0" = some "Deux" ∧
      (⟨table.lookup, {}⟩ : Resolver).resolve " 1/0" = .ok "Deux" := by
  intro content table
  have hblank : Text.trim " 1/0".toList ≠ [] := by decide +kernel
  have hkey : String.ofList (Text.lowercase (Text.trim " 1/0".toList)) = "1/0" := by
    decide +kernel
  have hlookup : table.lookup "1/0" = some "Deux" := by decide +kernel
  have hanswered : Answered (Text.lines content.toList) "1/0" :=
    mem_questions_read_iff.mp (mem_questions_iff.mpr ⟨_, hlookup⟩)
  obtain ⟨hknown, -⟩ := (question_answered_by_last_line content {}).1 " 1/0" hblank
  rw [hkey] at hknown
  obtain ⟨a, -, hanswer, hstored, hresolve⟩ := hknown hanswered
  obtain rfl : a = "Deux" := Option.some.inj (hstored.symm.trans hlookup)
  exact ⟨hblank, hanswered, hanswer, hresolve⟩

end AnswerDesk.Table
