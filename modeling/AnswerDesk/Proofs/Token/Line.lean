import AnswerDesk.Proofs.Decimal.Canonical
import AnswerDesk.Proofs.Token.Lexemes

/-!
# `AnswerDesk.Proofs.Token.Line`: written numbers and lines of tokens read back

A number that is not negative and whose expansion ends is written as a numeral, and a numeral by
itself is one token. `written_numbers_read_back` puts both together: writing and reading are
inverse to each other, up to the zeros of a numeral that mean nothing.

A line of tokens has one space between any two of them, which is all that keeps two numbers apart.
`line_reads_back` says that the tokens of the line have the kinds that were written, in any order
that they come in. Whether they make a calculation plays no part.

The kinds that a line can bring back are those that a text can have (`Kind.IsWritable`). A negative
number or one whose expansion does not end is no lexeme of any text (`Lexes.isWritable`), so it is
on no line of the tokens of a text.
-/

set_option autoImplicit false

namespace AnswerDesk.Token

open Decimal (Denotes IsCanonical Terminating canonicalNumeral denotes_writeChars
  eq_of_writeChars_eq isCanonical_writeChars isNumeralChar numeralValue?_eq_some_iff toList_write
  write writeChars_of_denotes)

/-! ### Numbers -/

/-- A text that is a numeral has one token. -/
theorem tokenize_of_denotes {s : String} {v : Rat} (h : Denotes s.toList v) :
    tokenize s = .ok [⟨.number v, 0⟩, ⟨.finish, s.toList.length⟩] :=
  readAll_eq_ok_iff.mpr ⟨_, lexes_of_denotes h 0, rfl⟩

/-- A number that a numeral can denote is written as a numeral that denotes it. -/
theorem denotes_write {r : Rat} (h0 : 0 ≤ r) (hend : Terminating r) (digits : Nat) :
    Denotes (write r digits).toList r := by
  rw [toList_write]
  exact denotes_writeChars h0 hend digits

/-- **Writing and reading numbers are inverse to each other**, on texts without superfluous zeros.
Whatever is written is such a text. A number that is not negative and whose expansion ends is read
back from its text. What is read from a numeral is written as the numeral without superfluous
zeros. So two numbers whose expansions end have one text only if they are equal, whatever numbers of
digits are asked for. -/
theorem written_numbers_read_back :
    (∀ (r : Rat) (digits : Nat), IsCanonical (write r digits).toList) ∧
    (∀ (r : Rat) (digits : Nat), 0 ≤ r → Terminating r →
      tokenize (write r digits)
        = .ok [⟨.number r, 0⟩, ⟨.finish, (write r digits).toList.length⟩]) ∧
    (∀ (s : String) (v : Rat), Denotes s.toList v →
      tokenize s = .ok [⟨.number v, 0⟩, ⟨.finish, s.toList.length⟩] ∧
        ∀ digits, (write v digits).toList = canonicalNumeral s.toList) ∧
    ∀ (r r' : Rat) (digits digits' : Nat), Terminating r → Terminating r' →
      write r digits = write r' digits' → r = r' := by
  refine ⟨?_, ?_, ?_, ?_⟩
  · intro r digits
    rw [toList_write]
    exact isCanonical_writeChars r digits
  · intro r digits h0 hend
    exact tokenize_of_denotes (denotes_write h0 hend digits)
  · intro s v hs
    refine ⟨tokenize_of_denotes hs, ?_⟩
    intro digits
    rw [toList_write, writeChars_of_denotes hs]
  · intro r r' digits digits' hr hr' h
    exact eq_of_writeChars_eq hr hr' (String.ofList_injective h)

/-- Of `007.50` superfluous zeros are left out, and `7.5` reads back as the same number. -/
theorem padded_numeral_read_and_written :
    Denotes "007.50".toList (15 / 2) ∧
    tokenize "007.50" = .ok [⟨.number (15 / 2), 0⟩, ⟨.finish, 6⟩] ∧
    write (15 / 2) 0 = "7.5" ∧ IsCanonical "7.5".toList ∧
    0 ≤ (15 / 2 : Rat) ∧ Terminating (15 / 2) ∧
    tokenize "7.5" = .ok [⟨.number (15 / 2), 0⟩, ⟨.finish, 3⟩] ∧
    Terminating (3 / 4) ∧ write (3 / 4) 9 ≠ "7.5" := by
  obtain ⟨hcanonical, hback, hread, hdistinct⟩ := written_numbers_read_back
  have hdenotes : Denotes "007.50".toList (15 / 2) :=
    numeralValue?_eq_some_iff.mp (by decide +kernel)
  have h0 : 0 ≤ (15 / 2 : Rat) := by decide +kernel
  have hends : Terminating (15 / 2) := ⟨1, by decide +kernel⟩
  have hends' : Terminating (3 / 4) := ⟨2, by decide +kernel⟩
  obtain ⟨htokens, hwritten⟩ := hread _ _ hdenotes
  have hwrite : write (15 / 2) 0 = "7.5" := by
    rw [← String.toList_inj, hwritten]
    decide +kernel
  have hform := hcanonical (15 / 2) 0
  have hagain := hback (15 / 2) 0 h0 hends
  rw [hwrite] at hform hagain
  refine ⟨hdenotes, htokens, hwrite, hform, h0, hends, hagain, hends', ?_⟩
  intro h
  -- Equal texts would make the numbers equal.
  rw [← hwrite] at h
  exact absurd (hdistinct _ _ _ _ hends' hends h) (by decide +kernel)

/-! ### Lines -/

/-- A line can bring back tokens of this kind: no end mark, and of the numbers those that are not
negative and whose expansions end. -/
def Kind.IsWritable : Kind → Prop
  | .number v => 0 ≤ v ∧ Terminating v
  | .operator _ => True
  | .opening => True
  | .closing => True
  | .finish => False

/-- Symbols can be written. -/
theorem isWritable_of_ofChar? {c : Char} {kind : Kind} (h : Kind.ofChar? c = some kind) :
    kind.IsWritable := by
  cases kind with
  | number v => exact absurd rfl (ne_number_of_ofChar? h v)
  | operator op => trivial
  | opening => trivial
  | closing => trivial
  | finish => exact absurd rfl (ne_finish_of_ofChar? h)

/-- The lexemes of every text can be written. -/
theorem Lexes.isWritable {pos : Nat} {cs : List Char} {ts : List Token} (h : Lexes pos cs ts) :
    ∀ t ∈ ts, t.kind.IsWritable := by
  induction h with
  | nil pos => simp
  | blank _ _ ih => exact ih
  | symbol hc _ ih =>
      intro t ht
      rcases List.mem_cons.mp ht with rfl | ht
      · exact isWritable_of_ofChar? hc
      · exact ih t ht
  | number hrun _ _ ih =>
      intro t ht
      rcases List.mem_cons.mp ht with rfl | ht
      · exact ⟨hrun.nonneg, hrun.terminating⟩
      · exact ih t ht

/-- What can be written has a spelling, and is the lexeme that the spelling begins with in a text
that does not continue it by a digit or a point. -/
theorem Kind.IsWritable.exists_spelling {kind : Kind} (h : kind.IsWritable) :
    ∃ s, kind.spelling? = some s ∧
      ∀ (pos : Nat) (rest : List Char) (ts : List Token),
        (∀ c ∈ rest.head?, isNumeralChar c = false) → Lexes (pos + s.toList.length) rest ts →
          Lexes pos (s.toList ++ rest) (⟨kind, pos⟩ :: ts) := by
  cases kind with
  | number v =>
      refine ⟨_, rfl, ?_⟩
      intro pos rest ts hrest hlexes
      exact .number (denotes_write h.1 h.2 _) hrest hlexes
  | operator op =>
      refine ⟨_, rfl, ?_⟩
      intro pos rest ts _ hlexes
      simpa using Lexes.symbol (ofChar?_symbol op) (by simpa using hlexes)
  | opening =>
      refine ⟨_, rfl, ?_⟩
      intro pos rest ts _ hlexes
      exact .symbol (c := '(') rfl hlexes
  | closing =>
      refine ⟨_, rfl, ?_⟩
      intro pos rest ts _ hlexes
      exact .symbol (c := ')') rfl hlexes
  | finish => cases h

/-- The end mark leaves no trace on a line. -/
theorem line_append_finish (ts : List Token) (finish : Nat) :
    line (ts ++ [⟨.finish, finish⟩]) = line ts := by
  simp [line, Kind.spelling?]

/-- A line shows the kinds of the tokens, and not where they stood. -/
theorem line_eq_of_kinds {ts us : List Token} (h : ts.map (·.kind) = us.map (·.kind)) :
    line ts = line us := by
  have hline : ∀ vs : List Token,
      line vs = " ".intercalate ((vs.map (·.kind)).filterMap Kind.spelling?) := by
    intro vs
    rw [List.filterMap_map]
    rfl
  rw [hline, hline, h]

/-- The first token of a line stands before a space, and the line of the others follows. -/
theorem toList_line_cons {t u : Token} {s s' : String} (ht : t.kind.spelling? = some s)
    (hu : u.kind.spelling? = some s') (ts : List Token) :
    (line (t :: u :: ts)).toList = s.toList ++ ' ' :: (line (u :: ts)).toList := by
  simp [line, ht, hu]

/-- A line splits into lexemes of the kinds that were written, wherever it starts. -/
theorem exists_lexes_line {ts : List Token} (h : ∀ t ∈ ts, t.kind.IsWritable) :
    ∀ pos : Nat, ∃ us, us.map (·.kind) = ts.map (·.kind) ∧ Lexes pos (line ts).toList us := by
  induction ts with
  | nil =>
      intro pos
      exact ⟨[], rfl, .nil pos⟩
  | cons t ts ih =>
      intro pos
      obtain ⟨s, hs, hspelling⟩ := (h t (by simp)).exists_spelling
      cases ts with
      | nil =>
          -- The last token of the line ends the text.
          have hlast := hspelling pos [] [] (by simp) (.nil _)
          exact ⟨[⟨t.kind, pos⟩], rfl, by simpa [line, hs] using hlast⟩
      | cons u ts =>
          obtain ⟨s', hs', -⟩ := (h u (by simp)).exists_spelling
          obtain ⟨us, hus, hlexes⟩ :=
            ih (fun x hx => h x (by simp [hx])) (pos + s.toList.length + 1)
          -- The space is a blank, and no digit and no point.
          have hspace := Lexes.blank (c := ' ') (by decide) hlexes
          rw [toList_line_cons hs hs']
          exact ⟨_, by simp [hus], hspelling pos _ us (by simp; decide) hspace⟩

/-- **A line of tokens reads back.** Let the tokens be symbols and numbers that numerals denote, in
any order and with any positions, and one end mark behind them. Then the line has tokens, of the
same kinds in the same order. So the line of the tokens of a text has tokens of the kinds of that
text, and is their line too. -/
theorem line_reads_back :
    (∀ (ts : List Token) (finish : Nat), (∀ t ∈ ts, t.kind.IsWritable) →
      ∃ again, tokenize (line (ts ++ [⟨.finish, finish⟩])) = .ok again ∧
        again.map (·.kind) = ts.map (·.kind) ++ [.finish]) ∧
    ∀ (s : String) (tokens : List Token), tokenize s = .ok tokens →
      ∃ again, tokenize (line tokens) = .ok again ∧
        again.map (·.kind) = tokens.map (·.kind) ∧ line again = line tokens := by
  have hline : ∀ (ts : List Token) (finish : Nat), (∀ t ∈ ts, t.kind.IsWritable) →
      ∃ again, tokenize (line (ts ++ [⟨.finish, finish⟩])) = .ok again ∧
        again.map (·.kind) = ts.map (·.kind) ++ [.finish] := by
    intro ts finish hts
    obtain ⟨us, hus, hlexes⟩ := exists_lexes_line hts 0
    rw [line_append_finish]
    exact ⟨_, readAll_eq_ok_iff.mpr ⟨us, hlexes, rfl⟩, by simp [hus]⟩
  refine ⟨hline, ?_⟩
  intro s tokens htokens
  obtain ⟨ts, hlexes, rfl⟩ := readAll_eq_ok_iff.mp htokens
  obtain ⟨again, hagain, hkinds⟩ := hline ts s.toList.length hlexes.isWritable
  exact ⟨again, hagain, by simp [hkinds], line_eq_of_kinds (by simp [hkinds])⟩

/-- Two numbers in a row, in no calculation and with positions that make no sense, and a calculation
without spaces. -/
theorem numbers_in_a_row_read_back :
    let ts : List Token := [⟨.number (5 / 2), 9⟩, ⟨.number 3, 0⟩, ⟨.closing, 4⟩]
    (∀ t ∈ ts, t.kind.IsWritable) ∧ line (ts ++ [⟨.finish, 1⟩]) = "2.5 3 )" ∧
    (∃ again, tokenize "2.5 3 )" = .ok again ∧
      again.map (·.kind) = [.number (5 / 2), .number 3, .closing, .finish]) ∧
    tokenize "(5+3)" = .ok [⟨.opening, 0⟩, ⟨.number 5, 1⟩, ⟨.operator .add, 2⟩, ⟨.number 3, 3⟩,
      ⟨.closing, 4⟩, ⟨.finish, 5⟩] ∧
    ∃ again, tokenize "( 5 + 3 )" = .ok again ∧ line again = "( 5 + 3 )" := by
  intro ts
  have hts : ∀ t ∈ ts, t.kind.IsWritable := by
    simp only [ts, List.forall_mem_cons, Kind.IsWritable]
    exact ⟨⟨by decide +kernel, 1, by decide +kernel⟩, ⟨by decide +kernel, 0, by decide +kernel⟩,
      trivial, by simp⟩
  have hline : line (ts ++ [⟨.finish, 1⟩]) = "2.5 3 )" := by decide +kernel
  obtain ⟨again, hagain, hkinds⟩ := line_reads_back.1 ts 1 hts
  rw [hline] at hagain
  have htokens : tokenize "(5+3)" = .ok [⟨.opening, 0⟩, ⟨.number 5, 1⟩, ⟨.operator .add, 2⟩,
      ⟨.number 3, 3⟩, ⟨.closing, 4⟩, ⟨.finish, 5⟩] := by decide +kernel
  have hspaced : line [⟨.opening, 0⟩, ⟨.number 5, 1⟩, ⟨.operator .add, 2⟩, ⟨.number 3, 3⟩,
      ⟨.closing, 4⟩, ⟨.finish, 5⟩] = "( 5 + 3 )" := by decide +kernel
  obtain ⟨again', hagain', -, hline'⟩ := line_reads_back.2 _ _ htokens
  rw [hspaced] at hagain' hline'
  exact ⟨hts, hline, ⟨again, hagain, hkinds⟩, htokens, again', hagain', hline'⟩

end AnswerDesk.Token
