import AnswerDesk.Proofs.Decimal.Numeral
import AnswerDesk.Token.Reader

/-!
# `AnswerDesk.Proofs.Token.Lexemes`: texts that split into lexemes

`Lexes pos cs ts` says what it is for a text to have tokens, without reading it: `cs`,
which starts at position `pos`, is made of blanks, of operators and parentheses, and of
numerals that the text does not continue by a digit or a point. `ts` are the tokens of its
lexemes, each with the position of its first character.

`readAll_eq_ok_iff` says that the reader succeeds on exactly these texts, with the tokens
of the lexemes and the end mark behind them. Only one lexeme can start with a given
character (`ofChar?_of_isDigit`, `isBlank_of_ofChar?` and their like), so the order in
which the reader tries them does not matter.
-/

set_option autoImplicit false

namespace AnswerDesk.Token

open Decimal (Denotes isNumeralChar numeralValue? numeralValue?_eq_some_iff)
open Text (takeWhile_run dropWhile_run head?_dropWhile_run)

/-- The text at this position is made of the lexemes with these tokens, and of blanks. -/
inductive Lexes : Nat → List Char → List Token → Prop
  /-- The empty text has no lexemes. -/
  | nil (pos : Nat) : Lexes pos [] []
  /-- A blank may stand between any two lexemes. -/
  | blank {pos : Nat} {c : Char} {cs : List Char} {ts : List Token}
      (hc : Text.isBlank c = true) (h : Lexes (pos + 1) cs ts) : Lexes pos (c :: cs) ts
  /-- An operator or a parenthesis is a lexeme by itself. -/
  | symbol {pos : Nat} {c : Char} {cs : List Char} {ts : List Token} {kind : Kind}
      (hc : Kind.ofChar? c = some kind) (h : Lexes (pos + 1) cs ts) :
      Lexes pos (c :: cs) (⟨kind, pos⟩ :: ts)
  /-- A numeral is a lexeme if no digit and no point continues it. -/
  | number {pos : Nat} {run cs : List Char} {v : Rat} {ts : List Token}
      (hrun : Denotes run v) (hcs : ∀ c ∈ cs.head?, isNumeralChar c = false)
      (h : Lexes (pos + run.length) cs ts) : Lexes pos (run ++ cs) (⟨.number v, pos⟩ :: ts)

/-! ### Classes of characters -/

/-- The characters that are lexemes by themselves. -/
def symbols : List Char := ['(', ')', '+', '-', '*', '/']

theorem mem_symbols_of_ofChar? {c : Char} {kind : Kind} (h : Kind.ofChar? c = some kind) :
    c ∈ symbols := by
  unfold Kind.ofChar? at h
  split at h
  · simp [symbols]
  · simp [symbols]
  · unfold Op.ofSymbol? at h
    split at h
    · simp [symbols]
    · simp [symbols]
    · simp [symbols]
    · simp [symbols]
    · cases h

/-- The symbol of an operation stands for it. -/
theorem ofChar?_symbol (op : Op) : Kind.ofChar? op.symbol = some (.operator op) := by
  cases op <;> rfl

/-- What holds of the six symbols holds of every character that is a lexeme by itself. -/
theorem of_ofChar? {p : Char → Bool} (hall : symbols.all p = true) {c : Char} {kind : Kind}
    (h : Kind.ofChar? c = some kind) : p c = true :=
  List.all_eq_true.mp hall c (mem_symbols_of_ofChar? h)

theorem isBlank_of_ofChar? {c : Char} {kind : Kind} (h : Kind.ofChar? c = some kind) :
    Text.isBlank c = false := by
  simpa using of_ofChar? (p := fun x => !Text.isBlank x) (by decide) h

theorem isNumeralChar_of_ofChar? {c : Char} {kind : Kind} (h : Kind.ofChar? c = some kind) :
    isNumeralChar c = false := by
  simpa using of_ofChar? (p := fun x => !isNumeralChar x) (by decide) h

/-- An operator or a parenthesis is no end mark. -/
theorem ne_finish_of_ofChar? {c : Char} {kind : Kind} (h : Kind.ofChar? c = some kind) :
    kind ≠ .finish := by
  rintro rfl
  have hne := of_ofChar? (p := fun x => Kind.ofChar? x != some .finish) (by decide) h
  simp [h] at hne

/-- An operator or a parenthesis is no number. -/
theorem ne_number_of_ofChar? {c : Char} {kind : Kind} (h : Kind.ofChar? c = some kind)
    (v : Rat) : kind ≠ .number v := by
  rintro rfl
  have hne := of_ofChar? (p := fun x => Kind.ofChar? x != some (.number v))
    (by simp [symbols, Kind.ofChar?, Op.ofSymbol?]) h
  simp [h] at hne

theorem isBlank_of_isDigit {c : Char} (h : c.isDigit = true) : Text.isBlank c = false := by
  have hrange : 48 ≤ c.toNat ∧ c.toNat ≤ 57 := Char.isDigit_iff_toNat.mp h
  simp only [Text.isBlank, Bool.or_eq_false_iff, Bool.and_eq_false_iff, decide_eq_false_iff_not,
    beq_eq_false_iff_ne]
  omega

theorem isBlank_of_isNumeralChar {c : Char} (h : isNumeralChar c = true) :
    Text.isBlank c = false := by
  rcases Bool.or_eq_true_iff.mp h with hdigit | hpoint
  · exact isBlank_of_isDigit hdigit
  · rw [beq_iff_eq.mp hpoint]
    decide

theorem ofChar?_of_isDigit {c : Char} (h : c.isDigit = true) : Kind.ofChar? c = none := by
  cases hc : Kind.ofChar? c with
  | none => rfl
  | some kind =>
      have := isNumeralChar_of_ofChar? hc
      simp [isNumeralChar, h] at this

/-- A numeral is one lexeme, wherever it starts. -/
theorem lexes_of_denotes {run : List Char} {v : Rat} (h : Denotes run v) (pos : Nat) :
    Lexes pos run [⟨.number v, pos⟩] := by
  simpa using Lexes.number h (by simp) (.nil (pos + run.length))

/-! ### What the tokens of a text are -/

/-- A number among the tokens is what a numeral in the text denotes. -/
theorem Lexes.exists_denotes {pos : Nat} {cs : List Char} {ts : List Token}
    (h : Lexes pos cs ts) {v : Rat} (hv : Kind.number v ∈ ts.map (·.kind)) :
    ∃ run, Denotes run v ∧ ∀ c ∈ run, c ∈ cs := by
  induction h with
  | nil pos => simp at hv
  | blank _ _ ih =>
      obtain ⟨run, hrun, hmem⟩ := ih hv
      exact ⟨run, hrun, fun c hc => by simp [hmem c hc]⟩
  | symbol hc _ ih =>
      rcases List.mem_cons.mp hv with rfl | hv
      · exact absurd rfl (ne_number_of_ofChar? hc v)
      · obtain ⟨run, hrun, hmem⟩ := ih hv
        exact ⟨run, hrun, fun c hc => by simp [hmem c hc]⟩
  | @number pos run cs w ts hrun _ _ ih =>
      rcases List.mem_cons.mp hv with hvw | hv
      · cases hvw
        exact ⟨run, hrun, fun c hc => by simp [hc]⟩
      · obtain ⟨run, hrun, hmem⟩ := ih hv
        exact ⟨run, hrun, fun c hc => by simp [hmem c hc]⟩

/-- No lexeme is an end mark. -/
theorem Lexes.kind_ne_finish {pos : Nat} {cs : List Char} {ts : List Token}
    (h : Lexes pos cs ts) : ∀ t ∈ ts, t.kind ≠ .finish := by
  induction h with
  | nil pos => simp
  | blank _ _ ih => exact ih
  | symbol hc _ ih => simpa using ⟨ne_finish_of_ofChar? hc, ih⟩
  | number _ _ _ ih => simpa using ih

/-! ### The reader and the lexemes -/

/-- The reader splits a text into its lexemes, whatever stands before it. -/
theorem readOnto_of_lexes {pos : Nat} {cs : List Char} {ts : List Token} (h : Lexes pos cs ts) :
    ∀ out : List Token,
      readOnto pos out cs = .ok (out.reverse ++ ts ++ [⟨.finish, pos + cs.length⟩]) := by
  induction h with
  | nil pos =>
      intro out
      rw [readOnto.eq_def, List.append_nil]
      simp only [List.reverse_cons, List.length_nil, Nat.add_zero]
  | @blank pos c cs ts hc _ ih =>
      intro out
      have hend : pos + 1 + cs.length = pos + (c :: cs).length := by simp; omega
      rw [readOnto.eq_def]
      simp only [if_pos hc, ih, hend]
  | @symbol pos c cs ts kind hc _ ih =>
      intro out
      have hend : pos + 1 + cs.length = pos + (c :: cs).length := by simp; omega
      rw [readOnto.eq_def]
      simp only [isBlank_of_ofChar? hc, Bool.false_eq_true, if_false, hc, ih, hend,
        List.reverse_cons, List.append_assoc, List.cons_append, List.nil_append]
  | @number pos run cs v ts hrun hcs _ ih =>
      intro out
      have hend : pos + run.length + cs.length = pos + (run ++ cs).length := by simp; omega
      -- The first digit settles the branch, and the reader takes the rest of the run.
      obtain ⟨c, rest, rfl, hc⟩ := hrun.exists_cons
      have hrest : ∀ x ∈ rest, isNumeralChar x = true := fun x hx =>
        hrun.isNumeralChar x (by simp [hx])
      rw [List.cons_append, readOnto.eq_def]
      simp only [isBlank_of_isDigit hc, ofChar?_of_isDigit hc, hc, Bool.false_eq_true, if_false,
        if_true, takeWhile_run hrest hcs, dropWhile_run hrest hcs,
        numeralValue?_eq_some_iff.mpr hrun, ih, hend, List.reverse_cons, List.append_assoc,
        List.cons_append, List.nil_append]

/-- What the reader reads are lexemes of the text. -/
theorem lexes_of_readOnto {pos : Nat} {out : List Token} {cs : List Char} :
    ∀ tokens : List Token, readOnto pos out cs = .ok tokens →
      ∃ ts, Lexes pos cs ts ∧
        tokens = out.reverse ++ ts ++ [⟨.finish, pos + cs.length⟩] := by
  -- One case for each branch of the reader. The last two are its errors.
  fun_induction readOnto pos out cs with
  | case1 pos out =>
      intro tokens h
      cases h
      exact ⟨[], .nil pos, by simp⟩
  | case2 pos out c rest hc ih =>
      intro tokens h
      obtain ⟨ts, hts, rfl⟩ := ih tokens h
      exact ⟨ts, .blank hc hts, by simp [Nat.add_assoc, Nat.add_comm 1]⟩
  | case3 pos out c rest _ kind hc ih =>
      intro tokens h
      obtain ⟨ts, hts, rfl⟩ := ih tokens h
      exact ⟨_, .symbol hc hts, by simp [Nat.add_assoc, Nat.add_comm 1]⟩
  | case4 pos out c rest _ _ _ run v hv ih =>
      intro tokens h
      obtain ⟨ts, hts, rfl⟩ := ih tokens h
      have hsplit : run ++ rest.dropWhile isNumeralChar = c :: rest := by simp [run]
      have hlexes := Lexes.number (numeralValue?_eq_some_iff.mp hv)
        (head?_dropWhile_run isNumeralChar rest) hts
      have hlength := congrArg List.length hsplit
      rw [List.length_append] at hlength
      rw [hsplit] at hlexes
      exact ⟨_, hlexes, by simp [Nat.add_assoc, hlength]⟩
  | case5 => nofun
  | case6 => nofun

/-- **The reader splits a text into lexemes** when it is made of lexemes, and puts the end
mark behind them, at the number of characters of the text. -/
theorem readAll_eq_ok_iff {cs : List Char} {tokens : List Token} :
    readAll cs = .ok tokens ↔
      ∃ ts, Lexes 0 cs ts ∧ tokens = ts ++ [⟨.finish, cs.length⟩] := by
  constructor
  · intro h
    simpa using lexes_of_readOnto tokens h
  · rintro ⟨ts, hts, rfl⟩
    simpa [readAll] using readOnto_of_lexes hts []

end AnswerDesk.Token
