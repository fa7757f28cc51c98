import AnswerDesk.Proofs.Token.Lexemes

/-!
# `AnswerDesk.Proofs.Token.Runs`: the lexical grammar, on the whole text

`Proofs.Token.Lexemes` splits a text into lexemes from left to right, as the reader does. This
file says the same of the text as a whole, without an order in which to look at it.

* `MaximalRun`: a run of digits and points that the text continues on neither side.
* `IsLexical`: all characters occur in lexemes, and every maximal run is a numeral.
* `IsLexeme`: a symbol of the text, or one of its maximal runs.
* `Offends`: what a text that is not lexical has at the place to blame.

Everything rests on one fact. If no run goes on from one text into another (`Parted`), then the
maximal runs of the two together are those of the first and those of the second
(`maximalRun_append_iff`), and with the runs go the lexemes and the grammar. The pieces that the
reader takes, a blank, a symbol or a numeral, are parted from what comes behind them.

`tokenize_follows_lexical_grammar` is the main result.
-/

set_option autoImplicit false

namespace AnswerDesk.Token

open Decimal (Denotes isNumeralChar numeralValue?_eq_some_iff)
open Text (head?_dropWhile_run)

/-! ### The lexical grammar -/

/-- `run` is made of digits and points, it starts at this position of the text, and neither the
character before it nor the one behind it is a digit or a point. -/
def MaximalRun (cs : List Char) (pos : Nat) (run : List Char) : Prop :=
  ∃ before after, cs = before ++ run ++ after ∧ before.length = pos ∧ run ≠ [] ∧
    (∀ c ∈ run, isNumeralChar c = true) ∧
    (∀ c ∈ before.getLast?, isNumeralChar c = false) ∧
    ∀ c ∈ after.head?, isNumeralChar c = false

/-- A character that may stand in a calculation: a blank, a digit, a point or a symbol. -/
def IsLexicalChar (c : Char) : Prop :=
  Text.isBlank c = true ∨ isNumeralChar c = true ∨ c ∈ symbols

/-- The text obeys the lexical grammar. -/
structure IsLexical (cs : List Char) : Prop where
  /-- Every character may stand in a calculation. -/
  chars : ∀ c ∈ cs, IsLexicalChar c
  /-- Every maximal run is a numeral. -/
  runs : ∀ pos run, MaximalRun cs pos run → ∃ v, Denotes run v

/-- The symbols, and what each of them stands for. -/
def symbolKinds : List (Char × Kind) :=
  [('(', .opening), (')', .closing), ('+', .operator .add), ('-', .operator .sub),
    ('*', .operator .mul), ('/', .operator .div)]

/-- The text has a lexeme of this kind at this position. -/
inductive IsLexeme (cs : List Char) : Kind → Nat → Prop
  /-- A symbol is a lexeme. -/
  | symbol {pos : Nat} {c : Char} {kind : Kind} (hpos : cs[pos]? = some c)
      (hc : (c, kind) ∈ symbolKinds) : IsLexeme cs kind pos
  /-- A maximal run is a lexeme, with the number that it denotes. -/
  | number {pos : Nat} {run : List Char} {v : Rat} (hrun : MaximalRun cs pos run)
      (hv : Denotes run v) : IsLexeme cs (.number v) pos

/-- What is at this position is no lexeme, and the error says so. -/
inductive Offends (cs : List Char) : Nat → LexicalError → Prop
  /-- A maximal run begins with a digit and is no numeral. -/
  | malformed {pos : Nat} {c : Char} {run : List Char} (hrun : MaximalRun cs pos (c :: run))
      (hc : c.isDigit = true) (hno : ∀ v, ¬ Denotes (c :: run) v) :
      Offends cs pos (.malformedNumber (String.ofList (c :: run)) pos)
  /-- A maximal run begins with a point. -/
  | point {pos : Nat} {run : List Char} (hrun : MaximalRun cs pos ('.' :: run)) :
      Offends cs pos (.unexpectedCharacter '.' pos)
  /-- A character may stand in no calculation. -/
  | foreign {pos : Nat} {c : Char} (hpos : cs[pos]? = some c) (hc : ¬ IsLexicalChar c) :
      Offends cs pos (.unexpectedCharacter c pos)

/-! ### Symbols -/

theorem ofChar?_eq_some_iff {c : Char} {kind : Kind} :
    Kind.ofChar? c = some kind ↔ (c, kind) ∈ symbolKinds := by
  constructor
  · intro h
    -- The six symbols are gone through, and each has one kind.
    have hc := mem_symbols_of_ofChar? h
    simp only [symbols, List.mem_cons, List.not_mem_nil, or_false] at hc
    rcases hc with rfl | rfl | rfl | rfl | rfl | rfl <;> cases h <;> simp [symbolKinds]
  · intro h
    simp only [symbolKinds, List.mem_cons, Prod.mk.injEq, List.not_mem_nil, or_false] at h
    rcases h with ⟨rfl, rfl⟩ | ⟨rfl, rfl⟩ | ⟨rfl, rfl⟩ | ⟨rfl, rfl⟩ | ⟨rfl, rfl⟩ | ⟨rfl, rfl⟩ <;>
      rfl

/-- A character that stands for nothing is no symbol. -/
theorem not_mem_symbols_of_ofChar? {c : Char} (h : Kind.ofChar? c = none) : c ∉ symbols := by
  intro hc
  simp only [symbols, List.mem_cons, List.not_mem_nil, or_false] at hc
  rcases hc with rfl | rfl | rfl | rfl | rfl | rfl <;> cases h

theorem isNumeralChar_of_isBlank {c : Char} (h : Text.isBlank c = true) :
    isNumeralChar c = false := by
  rw [Bool.eq_false_iff]
  intro hc
  rw [isBlank_of_isNumeralChar hc] at h
  cases h

/-! ### Texts side by side -/

/-- No run of digits and points goes on from the one text into the other. -/
def Parted (a b : List Char) : Prop :=
  ∀ c ∈ a.getLast?, ∀ d ∈ b.head?, isNumeralChar c = true → isNumeralChar d = false

theorem parted_of_last {a b : List Char} (h : ∀ c ∈ a.getLast?, isNumeralChar c = false) :
    Parted a b := by
  intro c hc d _ hnumeral
  simp [h c hc] at hnumeral

theorem parted_of_head {a b : List Char} (h : ∀ d ∈ b.head?, isNumeralChar d = false) :
    Parted a b :=
  fun _ _ d hd _ => h d hd

/-- What stands further in front does not matter. -/
theorem Parted.of_append {a b c : List Char} (h : Parted (a ++ b) c) : Parted b c := by
  intro x hx
  have hlast : b.getLast? = some x := hx
  exact h x (by simp [List.getLast?_append, hlast])

/-- The place where a text is parted from the rest may be moved behind a part of that rest. -/
theorem Parted.append {a b c : List Char} (hab : Parted a (b ++ c)) (hbc : Parted b c) :
    Parted (a ++ b) c := by
  cases b with
  | nil => simpa using hab
  | cons d b =>
      intro x hx
      rw [Option.mem_def, List.getLast?_append_of_ne_nil a (List.cons_ne_nil d b)] at hx
      exact hbc x hx

/-- A maximal run of the first text is one of both together. -/
theorem MaximalRun.append_right {a b run : List Char} {pos : Nat} (hab : Parted a b)
    (h : MaximalRun a pos run) : MaximalRun (a ++ b) pos run := by
  obtain ⟨before, after, rfl, rfl, hne, hrun, hbefore, hafter⟩ := h
  refine ⟨before, after ++ b, by simp, rfl, hne, hrun, hbefore, fun d hd => ?_⟩
  cases after with
  | nil =>
      -- The run ends the first text, so it is parted from the second.
      obtain ⟨c, hc⟩ := Option.isSome_iff_exists.mp (List.getLast?_isSome.mpr hne)
      have hlast : c ∈ (before ++ run ++ []).getLast? := by
        simp [List.getLast?_append, hc]
      exact hab c hlast d (by simpa using hd) (hrun c (List.mem_of_getLast? hc))
  | cons x after => exact hafter d (by simpa using hd)

/-- A maximal run of the second text is one of both together. -/
theorem MaximalRun.append_left {a b run : List Char} {q : Nat} (hab : Parted a b)
    (h : MaximalRun b q run) : MaximalRun (a ++ b) (a.length + q) run := by
  obtain ⟨before, after, rfl, rfl, hne, hrun, hbefore, hafter⟩ := h
  refine ⟨a ++ before, after, by simp, by simp, hne, hrun, fun c hc => ?_, hafter⟩
  cases before with
  | nil =>
      -- The run begins the second text.
      obtain ⟨d, rest, rfl⟩ := List.exists_cons_of_ne_nil hne
      rw [Bool.eq_false_iff]
      intro hnumeral
      have hd := hab c (by simpa using hc) d (by simp) hnumeral
      simp [hrun d (by simp)] at hd
  | cons x before =>
      rw [Option.mem_def, List.getLast?_append_of_ne_nil a (List.cons_ne_nil x before)] at hc
      exact hbefore c hc

/-- A maximal run of two texts that are parted lies in one of them. -/
theorem MaximalRun.of_append {a b run : List Char} {pos : Nat} (hab : Parted a b)
    (h : MaximalRun (a ++ b) pos run) :
    MaximalRun a pos run ∨ ∃ q, pos = a.length + q ∧ MaximalRun b q run := by
  obtain ⟨before, after, hsplit, rfl, hne, hrun, hbefore, hafter⟩ := h
  rw [List.append_assoc] at hsplit
  rcases List.append_eq_append_iff.mp hsplit with ⟨mid, rfl, rfl⟩ | ⟨mid, rfl, hrest⟩
  · -- The run starts in the second text, at its start or later.
    refine .inr ⟨mid.length, by simp, mid, after, by simp, rfl, hne, hrun, fun c hc => ?_, hafter⟩
    have hlast : mid.getLast? = some c := hc
    exact hbefore c (by simp [List.getLast?_append, hlast])
  · rcases List.append_eq_append_iff.mp hrest with ⟨more, rfl, rfl⟩ | ⟨more, rfl, rfl⟩
    · -- It starts and ends in the first text.
      refine .inl ⟨before, more, by simp, rfl, hne, hrun, hbefore, fun c hc => ?_⟩
      have hhead : more.head? = some c := hc
      exact hafter c (by simp [List.head?_append, hhead])
    · cases more with
      | nil => exact .inl ⟨before, [], by simp, rfl, hne, hrun, hbefore, by simp⟩
      | cons d more =>
          -- It ends in the second text, so nothing of it is in the first.
          have hmid : mid = [] := by
            by_contra hmid
            obtain ⟨c, hc⟩ := Option.isSome_iff_exists.mp (List.getLast?_isSome.mpr hmid)
            have hd := hab c (by simp [List.getLast?_append, hc]) d (by simp)
              (hrun c (by simp [List.mem_of_getLast? hc]))
            simp [hrun d (by simp)] at hd
          subst hmid
          exact .inr ⟨0, by simp, [], after, by simp, rfl, hne, hrun, by simp, hafter⟩

/-- **The maximal runs of two texts that are parted** are those of the first and those of the
second. -/
theorem maximalRun_append_iff {a b run : List Char} {pos : Nat} (hab : Parted a b) :
    MaximalRun (a ++ b) pos run ↔
      MaximalRun a pos run ∨ ∃ q, pos = a.length + q ∧ MaximalRun b q run := by
  constructor
  · exact fun h => h.of_append hab
  · rintro (h | ⟨q, rfl, h⟩)
    · exact h.append_right hab
    · exact h.append_left hab

/-- Two texts that are parted are lexical together when each is. -/
theorem isLexical_append_iff {a b : List Char} (hab : Parted a b) :
    IsLexical (a ++ b) ↔ IsLexical a ∧ IsLexical b := by
  constructor
  · intro h
    refine ⟨⟨fun c hc => h.chars c (by simp [hc]), fun pos run hrun => ?_⟩,
      ⟨fun c hc => h.chars c (by simp [hc]), fun pos run hrun => ?_⟩⟩
    · exact h.runs pos run ((maximalRun_append_iff hab).mpr (.inl hrun))
    · exact h.runs _ run ((maximalRun_append_iff hab).mpr (.inr ⟨pos, rfl, hrun⟩))
  · rintro ⟨ha, hb⟩
    refine ⟨fun c hc => (List.mem_append.mp hc).elim (ha.chars c) (hb.chars c), ?_⟩
    intro pos run hrun
    obtain hrun | ⟨q, -, hrun⟩ := (maximalRun_append_iff hab).mp hrun
    · exact ha.runs pos run hrun
    · exact hb.runs q run hrun

/-- Two texts that are parted have the lexemes of both. -/
theorem isLexeme_append_iff {a b : List Char} {kind : Kind} {pos : Nat} (hab : Parted a b) :
    IsLexeme (a ++ b) kind pos ↔
      IsLexeme a kind pos ∨ ∃ q, pos = a.length + q ∧ IsLexeme b kind q := by
  constructor
  · intro h
    cases h with
    | @symbol pos c kind hpos hc =>
        by_cases hlt : pos < a.length
        · rw [List.getElem?_append_left hlt] at hpos
          exact .inl (.symbol hpos hc)
        · rw [List.getElem?_append_right (Nat.le_of_not_lt hlt)] at hpos
          exact .inr ⟨pos - a.length, by omega, .symbol hpos hc⟩
    | number hrun hv =>
        obtain hrun | ⟨q, hq, hrun⟩ := (maximalRun_append_iff hab).mp hrun
        · exact .inl (.number hrun hv)
        · exact .inr ⟨q, hq, .number hrun hv⟩
  · rintro (h | ⟨q, rfl, h⟩)
    · cases h with
      | symbol hpos hc =>
          have hlt := (List.getElem?_eq_some_iff.mp hpos).1
          exact .symbol (by rwa [List.getElem?_append_left hlt]) hc
      | number hrun hv => exact .number ((maximalRun_append_iff hab).mpr (.inl hrun)) hv
    · cases h with
      | symbol hpos hc =>
          refine .symbol ?_ hc
          rwa [List.getElem?_append_right (Nat.le_add_right _ _), Nat.add_sub_cancel_left]
      | number hrun hv =>
          exact .number ((maximalRun_append_iff hab).mpr (.inr ⟨_, rfl, hrun⟩)) hv

/-! ### The pieces of a text -/

/-- A run has a digit or a point in it. -/
theorem MaximalRun.exists_mem {cs run : List Char} {pos : Nat} (h : MaximalRun cs pos run) :
    ∃ c ∈ cs, isNumeralChar c = true := by
  obtain ⟨before, after, rfl, -, hne, hrun, -⟩ := h
  obtain ⟨c, rest, rfl⟩ := List.exists_cons_of_ne_nil hne
  exact ⟨c, by simp, hrun c (by simp)⟩

/-- A run starts at its position. -/
theorem MaximalRun.getElem?_pos {cs run : List Char} {c : Char} {pos : Nat}
    (h : MaximalRun cs pos (c :: run)) : cs[pos]? = some c := by
  obtain ⟨before, after, rfl, rfl, -⟩ := h
  simp

/-- The character before a run is no digit and no point. -/
theorem MaximalRun.isNumeralChar_before {cs run : List Char} {d : Char} {pos : Nat}
    (h : MaximalRun cs (pos + 1) run) (hd : cs[pos]? = some d) : isNumeralChar d = false := by
  obtain ⟨before, after, rfl, hlength, -, -, hbefore, -⟩ := h
  refine hbefore d ?_
  have hpos : pos < before.length := by omega
  rw [List.append_assoc, List.getElem?_append_left hpos] at hd
  rw [Option.mem_def, List.getLast?_eq_getElem?, hlength, Nat.add_sub_cancel, hd]

/-- Another character by itself has no run in it. -/
theorem not_maximalRun_singleton {c : Char} (hc : isNumeralChar c = false) (pos : Nat)
    (run : List Char) : ¬ MaximalRun [c] pos run := by
  intro h
  obtain ⟨x, hx, hnumeral⟩ := h.exists_mem
  rw [List.mem_singleton.mp hx, hc] at hnumeral
  cases hnumeral

/-- A text of digits and points is its only maximal run. -/
theorem maximalRun_self_iff {cs run : List Char} {pos : Nat} (hne : cs ≠ [])
    (hcs : ∀ c ∈ cs, isNumeralChar c = true) : MaximalRun cs pos run ↔ pos = 0 ∧ run = cs := by
  constructor
  · rintro ⟨before, after, rfl, rfl, -, -, hbefore, hafter⟩
    have hbefore' : before = [] := by
      by_contra hb
      obtain ⟨c, hc⟩ := Option.isSome_iff_exists.mp (List.getLast?_isSome.mpr hb)
      have hnumeral := hcs c (by simp [List.mem_of_getLast? hc])
      rw [hbefore c hc] at hnumeral
      cases hnumeral
    have hafter' : after = [] := by
      by_contra ha
      obtain ⟨c, rest, rfl⟩ := List.exists_cons_of_ne_nil ha
      have hnumeral := hcs c (by simp)
      rw [hafter c rfl] at hnumeral
      cases hnumeral
    simp [hbefore', hafter']
  · rintro ⟨rfl, rfl⟩
    exact ⟨[], [], by simp, rfl, hne, hcs, by simp, by simp⟩

/-- A character that is no digit and no point is lexical by itself if it may stand in a
calculation. -/
theorem isLexical_singleton_iff {c : Char} (hc : isNumeralChar c = false) :
    IsLexical [c] ↔ IsLexicalChar c := by
  constructor
  · exact fun h => h.chars c (by simp)
  · exact fun h => ⟨by simpa using h,
      fun pos run hrun => absurd hrun (not_maximalRun_singleton hc pos run)⟩

/-- A numeral is lexical. -/
theorem isLexical_of_denotes {run : List Char} {v : Rat} (h : Denotes run v) :
    IsLexical run := by
  obtain ⟨c, rest, hcons, -⟩ := h.exists_cons
  have hne : run ≠ [] := by simp [hcons]
  refine ⟨fun c hc => .inr (.inl (h.isNumeralChar c hc)), fun pos r hr => ?_⟩
  obtain ⟨-, rfl⟩ := (maximalRun_self_iff hne h.isNumeralChar).mp hr
  exact ⟨v, h⟩

/-- A character that is no digit and no point is a lexeme if it is a symbol. -/
theorem isLexeme_singleton_iff {c : Char} (hc : isNumeralChar c = false) {kind : Kind}
    {pos : Nat} : IsLexeme [c] kind pos ↔ pos = 0 ∧ Kind.ofChar? c = some kind := by
  constructor
  · intro h
    cases h with
    | symbol hpos hkind =>
        obtain ⟨hlt, rfl⟩ := List.getElem?_eq_some_iff.mp hpos
        have hzero : pos = 0 := by simpa using hlt
        subst hzero
        exact ⟨rfl, ofChar?_eq_some_iff.mpr hkind⟩
    | number hrun _ => exact absurd hrun (not_maximalRun_singleton hc _ _)
  · rintro ⟨rfl, hkind⟩
    exact .symbol rfl (ofChar?_eq_some_iff.mp hkind)

/-- A numeral is one lexeme. -/
theorem isLexeme_iff_of_denotes {run : List Char} {v : Rat} (h : Denotes run v) {kind : Kind}
    {pos : Nat} : IsLexeme run kind pos ↔ pos = 0 ∧ kind = .number v := by
  obtain ⟨c, rest, hcons, -⟩ := h.exists_cons
  have hne : run ≠ [] := by simp [hcons]
  constructor
  · intro hlexeme
    cases hlexeme with
    | symbol hpos hkind =>
        -- No symbol is a digit or a point.
        have hnumeral := h.isNumeralChar _ (List.mem_of_getElem? hpos)
        rw [isNumeralChar_of_ofChar? (ofChar?_eq_some_iff.mpr hkind)] at hnumeral
        cases hnumeral
    | number hrun hv =>
        obtain ⟨rfl, rfl⟩ := (maximalRun_self_iff hne h.isNumeralChar).mp hrun
        exact ⟨rfl, by rw [hv.unique h]⟩
  · rintro ⟨rfl, rfl⟩
    exact .number ((maximalRun_self_iff hne h.isNumeralChar).mpr ⟨rfl, rfl⟩) h

/-- No run goes on behind a character that is no digit and no point. -/
theorem parted_singleton {c : Char} (hc : isNumeralChar c = false) (cs : List Char) :
    Parted [c] cs :=
  parted_of_last (by simpa using hc)

/-! ### Texts that are made of lexemes -/

/-- A text that is made of lexemes is lexical. -/
theorem Lexes.isLexical {pos : Nat} {cs : List Char} {ts : List Token} (h : Lexes pos cs ts) :
    IsLexical cs := by
  induction h with
  | nil pos =>
      refine ⟨by simp, fun q run hrun => ?_⟩
      obtain ⟨c, hc, -⟩ := hrun.exists_mem
      simp at hc
  | @blank pos c cs ts hc _ ih =>
      have hnumeral := isNumeralChar_of_isBlank hc
      exact (isLexical_append_iff (parted_singleton hnumeral cs)).mpr
        ⟨(isLexical_singleton_iff hnumeral).mpr (.inl hc), ih⟩
  | @symbol pos c cs ts kind hc _ ih =>
      have hnumeral := isNumeralChar_of_ofChar? hc
      exact (isLexical_append_iff (parted_singleton hnumeral cs)).mpr
        ⟨(isLexical_singleton_iff hnumeral).mpr (.inr (.inr (mem_symbols_of_ofChar? hc))), ih⟩
  | number hrun hcs _ ih =>
      exact (isLexical_append_iff (parted_of_head hcs)).mpr ⟨isLexical_of_denotes hrun, ih⟩

/-- The lexemes of a text that begins with no digit and no point. -/
theorem isLexeme_cons_iff {c : Char} (hc : isNumeralChar c = false) {cs : List Char}
    {kind : Kind} {pos : Nat} :
    IsLexeme (c :: cs) kind pos ↔
      (pos = 0 ∧ Kind.ofChar? c = some kind) ∨ ∃ q, pos = 1 + q ∧ IsLexeme cs kind q := by
  rw [← List.singleton_append, isLexeme_append_iff (parted_singleton hc cs),
    isLexeme_singleton_iff hc]
  rfl

theorem not_isLexeme_nil (kind : Kind) (pos : Nat) : ¬ IsLexeme [] kind pos := by
  intro h
  cases h with
  | symbol hpos _ => simp at hpos
  | number hrun _ =>
      obtain ⟨c, hc, -⟩ := hrun.exists_mem
      simp at hc

/-- The tokens are the lexemes of the text, counted from the position where it starts. -/
theorem Lexes.mem_iff {pos : Nat} {cs : List Char} {ts : List Token} (h : Lexes pos cs ts)
    (kind : Kind) (p : Nat) : ⟨kind, p⟩ ∈ ts ↔ ∃ q, p = pos + q ∧ IsLexeme cs kind q := by
  induction h with
  | nil pos => exact iff_of_false (by simp) fun ⟨q, _, hq⟩ => not_isLexeme_nil kind q hq
  | @blank pos c cs ts hc _ ih =>
      have hnone : Kind.ofChar? c ≠ some kind := fun hkind => by
        simp [isBlank_of_ofChar? hkind] at hc
      simp only [ih, isLexeme_cons_iff (isNumeralChar_of_isBlank hc), hnone, and_false, false_or]
      constructor
      · rintro ⟨q, rfl, hq⟩
        exact ⟨1 + q, by omega, q, rfl, hq⟩
      · rintro ⟨_, rfl, q, rfl, hq⟩
        exact ⟨q, by omega, hq⟩
  | @symbol pos c cs ts kind' hc _ ih =>
      simp only [List.mem_cons, Token.mk.injEq, ih,
        isLexeme_cons_iff (isNumeralChar_of_ofChar? hc), hc, Option.some.injEq]
      constructor
      · rintro (⟨rfl, rfl⟩ | ⟨q, rfl, hq⟩)
        · exact ⟨0, rfl, .inl ⟨rfl, rfl⟩⟩
        · exact ⟨1 + q, by omega, .inr ⟨q, rfl, hq⟩⟩
      · rintro ⟨_, rfl, ⟨rfl, rfl⟩ | ⟨q, rfl, hq⟩⟩
        · exact .inl ⟨rfl, rfl⟩
        · exact .inr ⟨q, by omega, hq⟩
  | @number pos run cs v ts hrun hcs _ ih =>
      simp only [List.mem_cons, Token.mk.injEq, ih, isLexeme_append_iff (parted_of_head hcs),
        isLexeme_iff_of_denotes hrun]
      constructor
      · rintro (⟨rfl, rfl⟩ | ⟨q, rfl, hq⟩)
        · exact ⟨0, rfl, .inl ⟨rfl, rfl⟩⟩
        · exact ⟨run.length + q, by omega, .inr ⟨q, rfl, hq⟩⟩
      · rintro ⟨_, rfl, ⟨rfl, rfl⟩ | ⟨q, rfl, hq⟩⟩
        · exact .inl ⟨rfl, rfl⟩
        · exact .inr ⟨q, by omega, hq⟩

/-- A lexeme starts inside the text. -/
theorem IsLexeme.pos_lt {cs : List Char} {kind : Kind} {pos : Nat} (h : IsLexeme cs kind pos) :
    pos < cs.length := by
  cases h with
  | symbol hpos _ => exact (List.getElem?_eq_some_iff.mp hpos).1
  | number hrun _ =>
      obtain ⟨before, after, rfl, rfl, hne, -⟩ := hrun
      have := List.length_pos_iff.mpr hne
      simp
      omega

/-- The tokens of a text stand inside of it. -/
theorem Lexes.pos_bounds {pos : Nat} {cs : List Char} {ts : List Token} (h : Lexes pos cs ts) :
    ∀ t ∈ ts, pos ≤ t.pos ∧ t.pos < pos + cs.length := by
  intro t ht
  obtain ⟨q, hq, hlexeme⟩ := (h.mem_iff t.kind t.pos).mp ht
  have := hlexeme.pos_lt
  omega

/-- The tokens come in the order of the text, and no two start at one position. -/
theorem Lexes.pairwise_pos_lt {pos : Nat} {cs : List Char} {ts : List Token}
    (h : Lexes pos cs ts) : ts.Pairwise fun t u => t.pos < u.pos := by
  induction h with
  | nil pos => exact .nil
  | blank _ _ ih => exact ih
  | symbol _ hcs ih =>
      refine .cons (fun u hu => ?_) ih
      exact Nat.lt_of_succ_le (hcs.pos_bounds u hu).1
  | @number pos run cs v ts hrun _ hcs ih =>
      refine .cons (fun u hu => ?_) ih
      obtain ⟨c, rest, rfl, -⟩ := hrun.exists_cons
      exact Nat.lt_of_lt_of_le (Nat.lt_add_of_pos_right (by simp)) (hcs.pos_bounds u hu).1

/-! ### Where the reader stops -/

/-- No lexeme and no blank stands in front of this text, which starts at this position, and the
error says so. -/
inductive Blocked (pos : Nat) : List Char → LexicalError → Prop
  /-- A run begins with a digit and is no numeral. -/
  | malformed {c : Char} {run cs : List Char} (hc : c.isDigit = true)
      (hrun : ∀ x ∈ c :: run, isNumeralChar x = true)
      (hcs : ∀ x ∈ cs.head?, isNumeralChar x = false) (hno : ∀ v, ¬ Denotes (c :: run) v) :
      Blocked pos (c :: run ++ cs) (.malformedNumber (String.ofList (c :: run)) pos)
  /-- A character begins no lexeme and is no blank. -/
  | unexpected {c : Char} {cs : List Char} (hblank : Text.isBlank c = false)
      (hsymbol : Kind.ofChar? c = none) (hdigit : c.isDigit = false) :
      Blocked pos (c :: cs) (.unexpectedCharacter c pos)

/-- Where the reader fails, the text is made of lexemes up to a place where it is blocked. -/
theorem exists_blocked_of_readOnto {pos : Nat} {out : List Token} {cs : List Char}
    {err : LexicalError} (h : readOnto pos out cs = .error err) :
    ∃ before rest ts, cs = before ++ rest ∧ Lexes pos before ts ∧ Parted before rest ∧
      Blocked (pos + before.length) rest err := by
  -- One case for each branch of the reader, as in `lexes_of_readOnto`.
  fun_induction readOnto pos out cs with
  | case1 => cases h
  | case2 pos out c rest hc ih =>
      obtain ⟨before, rest, ts, rfl, hlexes, hparted, hblocked⟩ := ih h
      refine ⟨c :: before, rest, ts, rfl, .blank hc hlexes, ?_, ?_⟩
      · exact (parted_singleton (isNumeralChar_of_isBlank hc) _).append hparted
      · simpa [Nat.add_assoc, Nat.add_comm 1] using hblocked
  | case3 pos out c rest _ kind hc ih =>
      obtain ⟨before, rest, ts, rfl, hlexes, hparted, hblocked⟩ := ih h
      refine ⟨c :: before, rest, _, rfl, .symbol hc hlexes, ?_, ?_⟩
      · exact (parted_singleton (isNumeralChar_of_ofChar? hc) _).append hparted
      · simpa [Nat.add_assoc, Nat.add_comm 1] using hblocked
  | case4 pos out c rest _ _ _ run v hv ih =>
      obtain ⟨before, after, ts, hsplit, hlexes, hparted, hblocked⟩ := ih h
      have hhead := head?_dropWhile_run isNumeralChar rest
      have hrun : run ++ (before ++ after) = c :: rest := by simp [run, ← hsplit]
      rw [hsplit] at hhead
      refine ⟨run ++ before, after, _, by simp [← hrun],
        .number (numeralValue?_eq_some_iff.mp hv) (fun x hx => ?_) hlexes, ?_, ?_⟩
      · have hx' : before.head? = some x := hx
        exact hhead x (by simp [List.head?_append, hx'])
      · exact (parted_of_head hhead).append hparted
      · simpa [Nat.add_assoc] using hblocked
  | case5 pos out c rest _ _ hdigit run hnone =>
      cases h
      -- The run is the longest one here, and it has no value.
      have hsplit : c :: rest = run ++ rest.dropWhile isNumeralChar := by simp [run]
      refine ⟨[], c :: rest, [], rfl, .nil pos, by simp [Parted], ?_⟩
      rw [hsplit]
      refine .malformed hdigit (fun x hx => ?_) (head?_dropWhile_run isNumeralChar rest) ?_
      · rcases List.mem_cons.mp hx with rfl | hx
        · simp [isNumeralChar, hdigit]
        · exact List.mem_takeWhile_imp hx
      · intro v hv
        rw [numeralValue?_eq_some_iff.mpr hv] at hnone
        cases hnone
  | case6 pos out c rest hblank hsymbol hdigit =>
      cases h
      exact ⟨[], c :: rest, [], rfl, .nil pos, by simp [Parted],
        .unexpected (by simpa using hblank) hsymbol (by simpa using hdigit)⟩

/-- A run is maximal if the text in front is parted from it, and the text behind begins with
another character. -/
theorem maximalRun_of_parted {before run after : List Char} (hne : run ≠ [])
    (hrun : ∀ c ∈ run, isNumeralChar c = true) (hparted : Parted before (run ++ after))
    (hafter : ∀ c ∈ after.head?, isNumeralChar c = false) :
    MaximalRun (before ++ (run ++ after)) before.length run := by
  refine ⟨before, after, by simp, rfl, hne, hrun, fun c hc => ?_, hafter⟩
  obtain ⟨d, rest, rfl⟩ := List.exists_cons_of_ne_nil hne
  rw [Bool.eq_false_iff]
  intro hnumeral
  have hd := hparted c hc d (by simp) hnumeral
  simp [hrun d (by simp)] at hd

/-- Where the reader is blocked, the text offends. -/
theorem Blocked.offends {before rest : List Char} {err : LexicalError}
    (h : Blocked before.length rest err) (hparted : Parted before rest) :
    Offends (before ++ rest) before.length err := by
  cases h with
  | malformed hc hrun hcs hno =>
      exact .malformed (maximalRun_of_parted (by simp) hrun hparted hcs) hc hno
  | @unexpected c cs hblank hsymbol hdigit =>
      -- A point begins a run, and any other character is foreign.
      by_cases hpoint : c = '.'
      · subst hpoint
        have hsplit : '.' :: cs
            = '.' :: cs.takeWhile isNumeralChar ++ cs.dropWhile isNumeralChar := by simp
        rw [hsplit] at hparted ⊢
        refine .point (maximalRun_of_parted (by simp) (fun x hx => ?_) hparted
          (head?_dropWhile_run isNumeralChar cs))
        rcases List.mem_cons.mp hx with rfl | hx
        · rfl
        · exact List.mem_takeWhile_imp hx
      · refine .foreign (by simp) ?_
        rintro (hc | hc | hc)
        · simp [hblank] at hc
        · simp [isNumeralChar, hdigit, hpoint] at hc
        · exact not_mem_symbols_of_ofChar? hsymbol hc

/-- A text that offends is not lexical. -/
theorem Offends.not_isLexical {cs : List Char} {pos : Nat} {err : LexicalError}
    (h : Offends cs pos err) : ¬ IsLexical cs := by
  intro hlexical
  cases h with
  | malformed hrun _ hno =>
      obtain ⟨v, hv⟩ := hlexical.runs _ _ hrun
      exact hno v hv
  | point hrun =>
      -- A numeral begins with a digit.
      obtain ⟨v, hv⟩ := hlexical.runs _ _ hrun
      obtain ⟨c, rest, hcons, hc⟩ := hv.exists_cons
      cases hcons
      exact absurd hc (by decide)
  | foreign hpos hc => exact hc (hlexical.chars _ (List.mem_of_getElem? hpos))

/-- A text without tokens offends behind a text that is lexical. -/
theorem exists_offends_of_readAll {cs : List Char} {err : LexicalError}
    (h : readAll cs = .error err) :
    ∃ before rest, cs = before ++ rest ∧ IsLexical before ∧ Offends cs before.length err := by
  obtain ⟨before, rest, ts, rfl, hlexes, hparted, hblocked⟩ := exists_blocked_of_readOnto h
  rw [Nat.zero_add] at hblocked
  exact ⟨before, rest, rfl, hlexes.isLexical, hblocked.offends hparted⟩

/-- **A text has tokens when it obeys the lexical grammar.** The tokens are its lexemes: one for
every symbol, and one with the number that is denoted for every maximal run. They stand where
their lexemes start, in the order of the text, and one end mark follows them at the number of
characters. A text without tokens offends against the grammar at the position of the error, and
what stands before that position obeys it. -/
theorem tokenize_follows_lexical_grammar (s : String) :
    ((∃ tokens, tokenize s = .ok tokens) ↔ IsLexical s.toList) ∧
    (∀ tokens, tokenize s = .ok tokens →
      ∃ ts, tokens = ts ++ [⟨.finish, s.toList.length⟩] ∧ (∀ t ∈ ts, t.kind ≠ .finish) ∧
        (∀ kind pos, ⟨kind, pos⟩ ∈ ts ↔ IsLexeme s.toList kind pos) ∧
        tokens.Pairwise fun t u => t.pos < u.pos) ∧
    (∀ err, tokenize s = .error err →
      ∃ pos, IsLexical (s.toList.take pos) ∧ Offends s.toList pos err) := by
  refine ⟨⟨?_, ?_⟩, ?_, ?_⟩
  · rintro ⟨tokens, h⟩
    obtain ⟨ts, hlexes, -⟩ := readAll_eq_ok_iff.mp h
    exact hlexes.isLexical
  · intro hlexical
    cases hread : tokenize s with
    | ok tokens => exact ⟨tokens, rfl⟩
    | error err =>
        obtain ⟨_, _, _, _, hoffends⟩ := exists_offends_of_readAll hread
        exact absurd hlexical hoffends.not_isLexical
  · intro tokens h
    obtain ⟨ts, hlexes, rfl⟩ := readAll_eq_ok_iff.mp h
    refine ⟨ts, rfl, hlexes.kind_ne_finish, fun kind pos => ?_, ?_⟩
    · simpa using hlexes.mem_iff kind pos
    · rw [List.pairwise_append]
      refine ⟨hlexes.pairwise_pos_lt, List.pairwise_singleton _ _, fun t ht u hu => ?_⟩
      rw [List.mem_singleton.mp hu]
      simpa using (hlexes.pos_bounds t ht).2
  · intro err h
    obtain ⟨before, rest, hsplit, hlexical, hoffends⟩ := exists_offends_of_readAll h
    refine ⟨before.length, ?_, hoffends⟩
    rwa [hsplit, List.take_left]

/-- ` 007.50*(3)` is made of five lexemes. In `4 + 1..2` the run `1..2` is no numeral, and what
stands before it is lexical. -/
theorem product_read_and_run_refused :
    tokenize " 007.50*(3)" = .ok [⟨.number (15 / 2), 1⟩, ⟨.operator .mul, 7⟩, ⟨.opening, 8⟩,
      ⟨.number 3, 9⟩, ⟨.closing, 10⟩, ⟨.finish, 11⟩] ∧
    IsLexeme " 007.50*(3)".toList (.number (15 / 2)) 1 ∧
    tokenize "4 + 1..2" = .error (.malformedNumber "1..2" 4) ∧ ¬ IsLexical "4 + 1..2".toList := by
  have hread : tokenize " 007.50*(3)" = .ok [⟨.number (15 / 2), 1⟩, ⟨.operator .mul, 7⟩,
      ⟨.opening, 8⟩, ⟨.number 3, 9⟩, ⟨.closing, 10⟩, ⟨.finish, 11⟩] := by decide +kernel
  have hrefused : tokenize "4 + 1..2" = .error (.malformedNumber "1..2" 4) := by decide +kernel
  obtain ⟨ts, hts, -, hmem, -⟩ := (tokenize_follows_lexical_grammar _).2.1 _ hread
  obtain ⟨pos, -, hoffends⟩ := (tokenize_follows_lexical_grammar _).2.2 _ hrefused
  refine ⟨hread, (hmem _ _).mp ?_, hrefused, hoffends.not_isLexical⟩
  -- The number is among all the tokens, and it is not the last of them.
  have hall : (⟨.number (15 / 2), 1⟩ : Token) ∈ ts ++ [⟨.finish, " 007.50*(3)".toList.length⟩] := by
    rw [← hts]
    exact List.mem_cons_self
  simpa using hall

end AnswerDesk.Token
