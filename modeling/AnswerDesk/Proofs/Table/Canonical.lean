import AnswerDesk.Proofs.Table.Lines
import AnswerDesk.Proofs.Text.Lines

/-!
# `AnswerDesk.Proofs.Table.Canonical`: a table can be written as lines again

The entries of a table that was read are in a form that survives another reading.

* `IsCanonical`: the key is trimmed and in lowercase, the answer is trimmed, and in neither is there
  a character that a table is written with, which are the equals sign and the line feed. Every entry
  that was read is such (`isCanonical_of_lookup_read`).
* `entryLine`, `written`: the entries as lines of a table. The line of a canonical entry says that
  entry and nothing else (`IsCanonical.says_iff`), and the lines are the lines of the text
  (`lines_written`).

A table has one entry for each key. So the order of the lines makes no difference, since no line
comes after another one about the same question (`read_written`).

`read_table_canonical` is the main result.
-/

set_option autoImplicit false

namespace AnswerDesk.Table

/-! ### Entries -/

/-- The form in which entries are stored. -/
structure IsCanonical (k a : String) : Prop where
  key : String.ofList (Text.lowercase (Text.trim k.toList)) = k
  key_equals : '=' ∉ k.toList
  key_feed : '\n' ∉ k.toList
  answer : Text.trim a.toList = a.toList
  answer_equals : '=' ∉ a.toList
  answer_feed : '\n' ∉ a.toList

/-- Making a key of a question adds none of the characters that a table is written with. -/
theorem not_mem_key {question : List Char} {c : Char} (hlow : c.toNat < 0x61)
    (h : c ∉ question) : c ∉ (key question).toList := by
  rw [toList_key]
  intro hmem
  exact h (Text.mem_of_mem_trim (Text.mem_of_mem_lowercase hmem hlow))

/-- What a line says is canonical. -/
theorem Line.Says.isCanonical {line : List Char} {k a : String} (h : Line.Says line k a)
    (hline : '\n' ∉ line) : IsCanonical k a := by
  cases h with
  | @intro question answer hquestion hanswer =>
      have hfeed : '\n' ∉ question ∧ '\n' ∉ answer := by
        constructor
        · exact fun hmem => hline (List.mem_append_left _ hmem)
        · exact fun hmem => hline (List.mem_append_right _ (List.mem_cons_of_mem _ hmem))
      refine ⟨isKey_key question, not_mem_key (by decide) hquestion,
        not_mem_key (by decide) hfeed.1, ?_, ?_, ?_⟩
      · rw [String.toList_ofList, Text.trim_trim]
      · rw [String.toList_ofList]
        exact fun hmem => hanswer (Text.mem_of_mem_trim hmem)
      · rw [String.toList_ofList]
        exact fun hmem => hfeed.2 (Text.mem_of_mem_trim hmem)

/-- **The entries of a table that was read are canonical.** -/
theorem isCanonical_of_lookup_read {content k a : String}
    (h : (read content).1.lookup k = some a) : IsCanonical k a := by
  obtain ⟨before, line, after, hsplit, hentry, -⟩ := lookup_read_eq_some_iff.mp h
  have hmem : line ∈ Text.lines content.toList := by simp [hsplit]
  exact hentry.isCanonical (Text.not_mem_of_mem_lines hmem)

/-! ### Lines -/

/-- The line of an entry. -/
def entryLine (entry : String × String) : String :=
  entry.1 ++ "=" ++ entry.2

/-- The entries as lines, with a line feed between them. -/
def written (entries : List (String × String)) : String :=
  "\n".intercalate (entries.map entryLine)

theorem toList_entryLine (k a : String) :
    (entryLine (k, a)).toList = k.toList ++ '=' :: a.toList := by
  simp [entryLine]

/-- The line of a canonical entry says that entry and nothing else. -/
theorem IsCanonical.says_iff {k a k' a' : String} (h : IsCanonical k a) :
    Line.Says (entryLine (k, a)).toList k' a' ↔ k = k' ∧ a = a' := by
  have hentry : Line.Says (entryLine (k, a)).toList k a := by
    have hline := Line.Says.intro h.key_equals h.answer_equals
    have hkey : Table.key k.toList = k := h.key
    rwa [hkey, h.answer, String.ofList_toList, ← toList_entryLine] at hline
  constructor
  · intro h'
    exact hentry.unique h'
  · rintro ⟨rfl, rfl⟩
    exact hentry

/-- The line of a canonical entry is one line: there is no line feed in it, and no carriage return at
its end. -/
theorem IsCanonical.entryLine_is_line {k a : String} (h : IsCanonical k a) :
    '\n' ∉ (entryLine (k, a)).toList ∧ (entryLine (k, a)).toList.getLast? ≠ some '\r' ∧
      (entryLine (k, a)).toList ≠ [] := by
  rw [toList_entryLine]
  refine ⟨?_, ?_, by simp⟩
  · simp [h.key_feed, h.answer_feed]
  · rw [List.getLast?_append_of_ne_nil _ (by simp), List.getLast?_cons]
    -- A trimmed answer has no blank at its end, and without one the line ends in the equals sign.
    cases hlast : a.toList.getLast? with
    | none => simp
    | some c =>
        have htrimmed := Text.isTrimmed_trim a.toList
        rw [h.answer] at htrimmed
        intro hreturn
        obtain rfl : c = '\r' := by simpa using hreturn
        exact absurd (htrimmed.last _ hlast) (by decide)

/-- Canonical entries are written as so many lines. -/
theorem lines_written {entries : List (String × String)}
    (h : ∀ e ∈ entries, IsCanonical e.1 e.2) :
    Text.lines (written entries).toList = entries.map fun e => (entryLine e).toList := by
  have hlines : ∀ l ∈ entries.map (fun e => (entryLine e).toList),
      '\n' ∉ l ∧ l.getLast? ≠ some '\r' ∧ l ≠ [] := by
    intro l hl
    obtain ⟨e, he, rfl⟩ := List.mem_map.mp hl
    exact (h e he).entryLine_is_line
  have htext : (written entries).toList
      = ['\n'].intercalate (entries.map fun e => (entryLine e).toList) := by
    rw [written, String.toList_intercalate, List.map_map]
    rfl
  rw [htext, Text.lines_intercalate (fun l hl => (hlines l hl).1) (fun l hl => (hlines l hl).2.1)
    fun l hl => (hlines l hl).2.2]

/-! ### Reading them back -/

/-- Tables that answer alike are the same. -/
theorem ext_lookup {t u : Table} (h : ∀ k, t.lookup k = u.lookup k) : t = u := by
  cases t
  cases u
  exact congrArg Table.mk (Std.ExtTreeMap.ext_getElem? h)

theorem mem_toList_answers_iff {t : Table} {k a : String} :
    (k, a) ∈ t.answers.toList ↔ t.lookup k = some a :=
  Std.ExtTreeMap.mem_toList_iff_getElem?_eq_some

/-- The last line about a question is the line of its entry, when there is one entry for each key. -/
theorem lastSays_map_entryLine_iff {entries : List (String × String)}
    (hcanonical : ∀ e ∈ entries, IsCanonical e.1 e.2)
    (hone : ∀ k a b, (k, a) ∈ entries → (k, b) ∈ entries → a = b) {k a : String} :
    LastSays (entries.map fun e => (entryLine e).toList) k a ↔ (k, a) ∈ entries := by
  have hmem : ∀ b, LastSays (entries.map fun e => (entryLine e).toList) k b →
      (k, b) ∈ entries := by
    rintro b ⟨before, line, after, hsplit, hentry, -⟩
    have hline : line ∈ entries.map fun e => (entryLine e).toList := by simp [hsplit]
    obtain ⟨⟨k', b'⟩, he, rfl⟩ := List.mem_map.mp hline
    obtain ⟨rfl, rfl⟩ := (hcanonical _ he).says_iff.mp hentry
    exact he
  constructor
  · exact hmem a
  · intro he
    have hanswered : Answered (entries.map fun e => (entryLine e).toList) k :=
      ⟨_, List.mem_map_of_mem he, a, (hcanonical _ he).says_iff.mpr ⟨rfl, rfl⟩⟩
    obtain ⟨b, hb⟩ := exists_lastSays hanswered
    rwa [hone k a b he (hmem b hb)]

/-- **A table of canonical entries is read back**, in whatever order they are written. -/
theorem read_written {t : Table} (hcanonical : ∀ k a, t.lookup k = some a → IsCanonical k a)
    {entries : List (String × String)} (h : entries.Perm t.answers.toList) :
    (read (written entries)).1 = t := by
  have hmem : ∀ k a, (k, a) ∈ entries ↔ t.lookup k = some a := fun k a =>
    h.mem_iff.trans mem_toList_answers_iff
  have hentries : ∀ e ∈ entries, IsCanonical e.1 e.2 := fun e he =>
    hcanonical e.1 e.2 ((hmem e.1 e.2).mp he)
  have hone : ∀ k a b, (k, a) ∈ entries → (k, b) ∈ entries → a = b := by
    intro k a b ha hb
    rw [hmem] at ha hb
    exact Option.some.inj (ha.symm.trans hb)
  refine ext_lookup fun k => Option.ext fun a => ?_
  rw [lookup_read_eq_some_iff, lines_written hentries, lastSays_map_entryLine_iff hentries hone,
    hmem]

/-- **A table that was read is in canonical form.** Let a table be read from any text. Every key is
what becomes of it when it is trimmed and put in lowercase, and every answer is trimmed. There is no
equals sign and no line feed in either. So the entries may be written as lines, in any order, and the
same table is read from them. -/
theorem read_table_canonical (content : String) :
    (∀ k a, (read content).1.lookup k = some a →
      String.ofList (Text.lowercase (Text.trim k.toList)) = k ∧ '=' ∉ k.toList ∧
      '\n' ∉ k.toList ∧ Text.trim a.toList = a.toList ∧ '=' ∉ a.toList ∧ '\n' ∉ a.toList) ∧
    ∀ entries : List (String × String), entries.Perm (read content).1.answers.toList →
      (read ("\n".intercalate (entries.map fun e => e.1 ++ "=" ++ e.2))).1
        = (read content).1 := by
  constructor
  · intro k a h
    obtain ⟨hkey, hequals, hfeed, hanswer, hequals', hfeed'⟩ := isCanonical_of_lookup_read h
    exact ⟨hkey, hequals, hfeed, hanswer, hequals', hfeed'⟩
  · intro entries h
    exact read_written (fun k a => isCanonical_of_lookup_read) h

/-- Carriage returns may be anywhere in a line, and keys and answers may be empty. The second line
about `b` is the one that counts. -/
theorem returns_and_blanks_read_back :
    let content := "\u00a0É\rT\u00c9 = a\rB \r\n=\nb=1\nno entry\n B \t= "
    let table := (read content).1
    let entries := [("é\rté", "a\rB"), ("b", ""), ("", "")]
    table.lookup "é\rté" = some "a\rB" ∧
      String.ofList (Text.lowercase (Text.trim "é\rté".toList)) = "é\rté" ∧
      entries.Perm table.answers.toList ∧
      (read ("\n".intercalate (entries.map fun e => e.1 ++ "=" ++ e.2))).1 = table := by
  intro content table entries
  have hlookup : table.lookup "é\rté" = some "a\rB" := by decide +kernel
  have hperm : entries.Perm table.answers.toList := by decide +kernel
  obtain ⟨hcanonical, hback⟩ := read_table_canonical content
  exact ⟨hlookup, (hcanonical _ _ hlookup).1, hperm, hback entries hperm⟩

end AnswerDesk.Table
