import AnswerDesk.Proofs.Expr.Unexpected
import AnswerDesk.Proofs.Resolver
import AnswerDesk.Proofs.Text.Normal
import AnswerDesk.Proofs.Token.Runs

/-!
# `AnswerDesk.Proofs.Resolver.Gate`: the look at a question

Before a question is read as a calculation it is looked at: all its characters have to occur in
calculations, and one has to be a digit. The look is cheap, and reading would find out anyway.
Two things are to be said of it.

It turns no expression away (`isCandidate_of_isExpression`). The characters that it lets through
are those that the lexical grammar allows (`isCalculationChar_iff_isLexicalChar`), and in every
expression there is a number.

And it leaves less to go wrong for the reader. No expression is empty behind it, since a digit
is in some token or makes the text fail before (`read_ne_emptyExpression`). The only character
that is unexpected behind it is a point where a number should begin
(`point_of_read_unexpectedCharacter`).

`look_loses_nothing_and_narrows_errors` is the main result.
-/

set_option autoImplicit false

namespace AnswerDesk

open Decimal (isNumeralChar)
open Token (IsLexicalChar Lexes MaximalRun Offends)

/-- The text is an expression: it has tokens, and with enough levels to open they have a tree. -/
inductive IsExpression (cs : List Char) : Prop
  /-- It is read in two steps, with some limit for the second. -/
  | intro {tokens : List Token} {depth : Nat} {e : Expr} (htokens : Token.readAll cs = .ok tokens)
    (htree : Expr.ofTokens depth tokens = .ok e) : IsExpression cs

namespace Calculation

/-! ### What is let through -/

/-- The look and the lexical grammar allow the same characters. -/
theorem isCalculationChar_iff_isLexicalChar {c : Char} :
    isCalculationChar c = true ↔ IsLexicalChar c := by
  simp only [isCalculationChar, IsLexicalChar, isNumeralChar, Token.symbols, Bool.or_eq_true,
    beq_iff_eq, List.mem_cons, List.not_mem_nil, or_false]
  -- Both sides name the same characters, in another order.
  grind

theorem isCandidate_eq_true_iff {cs : List Char} :
    isCandidate cs = true ↔ (∀ c ∈ cs, IsLexicalChar c) ∧ ∃ c ∈ cs, c.isDigit = true := by
  simp only [isCandidate, Bool.and_eq_true, List.all_eq_true, List.any_eq_true,
    isCalculationChar_iff_isLexicalChar]

/-- A question resembles a calculation or not, whether it is trimmed or not. -/
theorem isCandidate_trim_iff {cs : List Char} :
    isCandidate (Text.trim cs) = true ↔ isCandidate cs = true := by
  obtain ⟨front, back, hsplit, hfront, hback⟩ := Text.exists_eq_append_trim cs
  simp only [isCandidate_eq_true_iff]
  constructor
  · rintro ⟨hchars, c, hmem, hc⟩
    rw [hsplit]
    refine ⟨fun x hx => ?_, c, by simp [hmem], hc⟩
    -- What was trimmed away is blank, and blanks are let through.
    rcases List.mem_append.mp hx with hx | hx
    · rcases List.mem_append.mp hx with hx | hx
      · exact .inl (hfront x hx)
      · exact hchars x hx
    · exact .inl (hback x hx)
  · rintro ⟨hchars, c, hmem, hc⟩
    refine ⟨fun x hx => hchars x ?_, c, ?_, hc⟩
    · rw [hsplit]
      simp [hx]
    · exact Text.mem_trim_of_isBlank hmem (Token.isBlank_of_isDigit hc)

/-- **No expression is turned away.** -/
theorem isCandidate_of_isExpression {cs : List Char} (h : IsExpression cs) :
    isCandidate cs = true := by
  cases h with
  | @intro tokens depth e htokens htree =>
      have hread : read { depth } cs = .ok (tokens, e) := read_eq_ok_iff.mpr ⟨htokens, htree⟩
      exact isCandidate_of_read hread

/-! ### What goes wrong behind the look -/

/-- A text without lexemes has no digit. -/
theorem isDigit_of_lexes_nil {pos : Nat} {cs : List Char} (h : Lexes pos cs []) :
    ∀ c ∈ cs, c.isDigit = false := by
  generalize hts : ([] : List Token) = ts at h
  induction h with
  | nil pos => simp
  | blank hc _ ih =>
      intro x hx
      rcases List.mem_cons.mp hx with rfl | hx
      · rw [Bool.eq_false_iff]
        intro hdigit
        simp [Token.isBlank_of_isDigit hdigit] at hc
      · exact ih hts x hx
  | symbol => cases hts
  | number => cases hts

/-- What is let through is not read as an empty expression. -/
theorem read_ne_emptyExpression {limits : Limits} {cs : List Char}
    (hcandidate : isCandidate cs = true) :
    read limits cs ≠ .error (.grammar .emptyExpression) := by
  intro h
  cases htokens : Token.readAll cs with
  | error err =>
      rw [read_of_readAll_error htokens] at h
      cases h
  | ok tokens =>
      rw [read_of_readAll htokens] at h
      split at h
      · rename_i err herr
        cases h
        -- There are no tokens but the end mark, so there is no digit in the text.
        obtain ⟨ts, hlexes, rfl⟩ := Token.readAll_eq_ok_iff.mp htokens
        have hbody := Expr.ofTokens_eq_emptyExpression_iff.mp herr
        rw [Expr.body_append_finish hlexes.kind_ne_finish] at hbody
        subst hbody
        obtain ⟨-, c, hmem, hc⟩ := isCandidate_eq_true_iff.mp hcandidate
        simp [isDigit_of_lexes_nil hlexes c hmem] at hc
      · cases h

/-- A text that fails at a character has no tokens for that reason. -/
theorem readAll_of_read_reading {limits : Limits} {cs : List Char} {err : LexicalError}
    (h : read limits cs = .error (.reading err)) : Token.readAll cs = .error err := by
  cases htokens : Token.readAll cs with
  | error err' =>
      rw [read_of_readAll_error htokens] at h
      cases h
      rfl
  | ok tokens =>
      rw [read_of_readAll htokens] at h
      split at h <;> cases h

/-- The character that is unexpected in what is let through is a point at which a run begins. -/
theorem point_of_read_unexpectedCharacter {limits : Limits} {cs : List Char} {c : Char}
    {pos : Nat} (hcandidate : isCandidate cs = true)
    (h : read limits cs = .error (.reading (.unexpectedCharacter c pos))) :
    c = '.' ∧ ∃ run, MaximalRun cs pos ('.' :: run) := by
  obtain ⟨before, rest, -, -, hoffends⟩ :=
    Token.exists_offends_of_readAll (readAll_of_read_reading h)
  obtain ⟨hchars, -⟩ := isCandidate_eq_true_iff.mp hcandidate
  cases hoffends with
  | point hrun => exact ⟨rfl, _, hrun⟩
  | foreign hpos hc => exact absurd (hchars c (List.mem_of_getElem? hpos)) hc

/-- A question is called a calculation in an error only if it was let through. -/
theorem isCandidate_of_answer_arithmetic {limits : Limits} {cs : List Char}
    {err : ArithmeticError} (h : answer limits cs = .error (.arithmetic err)) :
    isCandidate cs = true := by
  by_contra hcandidate
  rw [answer, if_neg hcandidate] at h
  cases h

/-- Only what is turned away is not found. -/
theorem isCandidate_of_answer_notFound {limits : Limits} {cs : List Char} {q : String}
    (h : answer limits cs = .error (.notFound q)) : isCandidate cs = false := by
  obtain ⟨hcandidate, -⟩ | ⟨-, h'⟩ | ⟨err, -, h'⟩ | ⟨hlength, tokens, e, hread⟩ :=
    answer_cases limits cs
  · exact hcandidate
  · cases h'.symm.trans h
  · cases h'.symm.trans h
  · rw [answer_of_read hlength hread] at h
    split at h <;> cases h

/-- What does not fail while it is worked out fails while it is read. -/
theorem read_of_answer_arithmetic {limits : Limits} {cs : List Char} {err : ArithmeticError}
    (h : answer limits cs = .error (.arithmetic err)) (herr : ∀ e, err ≠ .value e) :
    read limits cs = .error err := by
  obtain ⟨-, h'⟩ | ⟨-, h'⟩ | ⟨err', hread, h'⟩ | ⟨hlength, tokens, e, hread⟩ :=
    answer_cases limits cs
  · cases h'.symm.trans h
  · cases h'.symm.trans h
  · cases h'.symm.trans h
    exact hread
  · rw [answer_of_read hlength hread] at h
    split at h
    · cases h
    · cases h
      exact absurd rfl (herr _)

end Calculation

namespace Resolver

open Calculation (isCandidate isCandidate_trim_iff isCandidate_of_isExpression)

/-- An expression is not among the questions that are not found, whether or not it has a
value. -/
theorem resolve_ne_notFound_of_isExpression {r : Resolver} {question : String}
    (h : IsExpression question.toList) (q : String) :
    r.resolve question ≠ .error (.notFound q) := by
  intro hnone
  have hno := Calculation.isCandidate_of_answer_notFound (answer_of_resolve_error hnone nofun)
  simp [isCandidate_trim_iff.mpr (isCandidate_of_isExpression h)] at hno

/-- No question fails as an empty expression. -/
theorem resolve_ne_emptyExpression (r : Resolver) (question : String) :
    r.resolve question ≠ .error (.arithmetic (.grammar .emptyExpression)) := by
  intro h
  have hanswer := answer_of_resolve_error h nofun
  exact Calculation.read_ne_emptyExpression (Calculation.isCandidate_of_answer_arithmetic hanswer)
    (Calculation.read_of_answer_arithmetic hanswer nofun)

/-- **The look at a question turns no expression away, and narrows what can go wrong behind
it.** An expression is never answered with `notFound`. No question fails as an empty expression,
and the only unexpected character is a point that is not behind a digit or a point. Of the
questions that are not among the known ones, those that resemble a calculation are measured
before anything else that is wrong with them can show, and the others are not found, however
long they are. -/
theorem look_loses_nothing_and_narrows_errors (r : Resolver) (question : String) :
    let cs := Text.trim question.toList
    (IsExpression question.toList →
      isCandidate question.toList = true ∧ ∀ q, r.resolve question ≠ .error (.notFound q)) ∧
    r.resolve question ≠ .error (.arithmetic (.grammar .emptyExpression)) ∧
    (∀ c pos, r.resolve question = .error (.arithmetic (.reading (.unexpectedCharacter c pos))) →
      c = '.' ∧ cs[pos]? = some '.' ∧
        ∀ before d, pos = before + 1 → cs[before]? = some d → d.isDigit = false ∧ d ≠ '.') ∧
    (r.lookup (String.ofList (Text.lowercase cs)) = none →
      (isCandidate cs = true → r.limits.length < cs.length →
        r.resolve question = .error (.tooLong cs.length r.limits.length)) ∧
      (cs ≠ [] → isCandidate cs = false →
        r.resolve question = .error (.notFound (String.ofList cs)))) := by
  intro cs
  refine ⟨?_, resolve_ne_emptyExpression r question, ?_, ?_⟩
  · intro h
    exact ⟨isCandidate_of_isExpression h, resolve_ne_notFound_of_isExpression h⟩
  · intro c pos h
    -- The error comes from the reader, behind the look.
    have hanswer := answer_of_resolve_error h nofun
    have hcandidate := Calculation.isCandidate_of_answer_arithmetic hanswer
    have hread := Calculation.read_of_answer_arithmetic hanswer nofun
    obtain ⟨rfl, run, hrun⟩ := Calculation.point_of_read_unexpectedCharacter hcandidate hread
    refine ⟨rfl, hrun.getElem?_pos, ?_⟩
    rintro before d rfl hd
    simpa [isNumeralChar] using hrun.isNumeralChar_before hd
  · intro hmiss
    refine ⟨fun hcandidate hlength => ?_, fun hblank hno => ?_⟩
    · rw [resolve_of_miss (Calculation.ne_nil_of_isCandidate hcandidate) hmiss]
      exact Calculation.answer_of_length_lt hcandidate hlength
    · rw [resolve_of_miss hblank hmiss, Calculation.answer, if_neg (by simp [cs, hno])]

/-- ` (1) ` is an expression, so it is not missed. In `2*.5` the point is unexpected. What is
wrong with ` 1++1.. ` first is its length, and `1,5` is not found. -/
theorem point_unexpected_behind_sign :
    let r : Resolver := ⟨fun _ => none, { length := 5 }⟩
    IsExpression " (1) ".toList ∧ (∀ q, r.resolve " (1) " ≠ .error (.notFound q)) ∧
    r.resolve "2*.5" = .error (.arithmetic (.reading (.unexpectedCharacter '.' 2))) ∧
    (Text.trim "2*.5".toList)[2]? = some '.' ∧
    r.resolve " 1++1.. " = .error (.tooLong 6 5) ∧
    r.resolve "1,5" = .error (.notFound "1,5") := by
  intro r
  have hexpression : IsExpression " (1) ".toList :=
    @IsExpression.intro _ [⟨.opening, 1⟩, ⟨.number 1, 2⟩, ⟨.closing, 3⟩, ⟨.finish, 5⟩] 1
      (.literal 1) (by decide +kernel) (by decide +kernel)
  have hpoint : r.resolve "2*.5"
      = .error (.arithmetic (.reading (.unexpectedCharacter '.' 2))) := by decide +kernel
  obtain ⟨hfound, -⟩ := look_loses_nothing_and_narrows_errors r " (1) "
  obtain ⟨-, -, hunexpected, -⟩ := look_loses_nothing_and_narrows_errors r "2*.5"
  obtain ⟨-, -, -, hmiss⟩ := look_loses_nothing_and_narrows_errors r " 1++1.. "
  obtain ⟨-, -, -, hmiss'⟩ := look_loses_nothing_and_narrows_errors r "1,5"
  refine ⟨hexpression, (hfound hexpression).2, hpoint, (hunexpected _ _ hpoint).2.1, ?_, ?_⟩
  · exact (hmiss rfl).1 (by decide +kernel) (by decide +kernel)
  · exact (hmiss' rfl).2 (by decide +kernel) (by decide +kernel)

end Resolver

end AnswerDesk
