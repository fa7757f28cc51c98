import AnswerDesk.Proofs.Expr.Reader
import AnswerDesk.Proofs.Expr.Value
import AnswerDesk.Proofs.Token.Lexemes
import AnswerDesk.Resolver

/-!
# `AnswerDesk.Proofs.Resolver`: which questions are answered by calculation

A question that is not among the known ones passes five stages: it is trimmed, looked at,
measured, read in two steps and worked out. Here the stages are put together.

* `resolveWith_eq_map`: a question that is not blank asks the known ones once, and what comes
  back settles the rest.
* `resolve_of_miss`: once the known questions have been asked, the answer is that of
  `Calculation.answer` to the trimmed question.
* `answer_eq_ok_iff`: it has an answer when the trimmed question is a calculation
  (`IsCalculation`), which is said without any of the stages. The look at the question
  costs nothing: a text made of lexemes that derive an expression has only characters of
  calculations, and a digit, since whatever is derived has a number in it.
* `explain_and_resolve_agree`: the explanation of a question comes from the same tokens and
  the same tree as its answer, and fails in the same way up to that tree.
-/

set_option autoImplicit false

namespace AnswerDesk

open Decimal (isNumeralChar)
open AnswerDesk.Expr (Derives DerivesWithin Fits maxHeight)
open Token (Kind Lexes)

/-- The text is a calculation with this tree, and can be worked out within the limits. -/
structure IsCalculation (limits : Limits) (cs : List Char) (e : Expr) : Prop where
  /-- The text is short enough. -/
  length_le : cs.length ≤ limits.length
  /-- The text is made of lexemes. They derive an expression with this tree, and no more
  levels are open at once than the limits allow. -/
  derives : ∃ lexemes levels, Lexes 0 cs lexemes ∧
    Derives .expression (lexemes.map (·.kind)) e levels ∧ levels ≤ limits.depth
  /-- The tree is low enough. -/
  height_le : e.height ≤ 512
  /-- No divisor has the value zero. -/
  divisor_ne_zero : ∀ a b, .binary .div a b ∈ e.postorder → b.exactValue ≠ 0
  /-- The value of no part of the calculation is too large. -/
  fits : ∀ x ∈ e.postorder, Fits x.exactValue

namespace Calculation

/-! ### The look at a question -/

/-- A text made of lexemes has only characters of calculations. -/
theorem isCalculationChar_of_lexes {pos : Nat} {cs : List Char} {ts : List Token}
    (h : Lexes pos cs ts) : ∀ c ∈ cs, isCalculationChar c = true := by
  induction h with
  | nil pos => simp
  | blank hc _ ih => simpa [isCalculationChar, hc] using ih
  | @symbol pos c cs ts kind hc _ ih =>
      intro x hx
      rcases List.mem_cons.mp hx with rfl | hx
      · exact Token.of_ofChar? (by decide) hc
      · exact ih x hx
  | @number pos run cs v ts hrun _ _ ih =>
      intro x hx
      rcases List.mem_append.mp hx with hx | hx
      · have hnumeral := hrun.isNumeralChar x hx
        simp only [isNumeralChar, Bool.or_eq_true] at hnumeral
        rcases hnumeral with hnumeral | hnumeral <;> simp [isCalculationChar, hnumeral]
      · exact ih x hx

/-- A text made of lexemes, a number among them, resembles a calculation. -/
theorem isCandidate_of_lexes {pos : Nat} {cs : List Char} {ts : List Token} {v : Rat}
    (h : Lexes pos cs ts) (hv : Kind.number v ∈ ts.map (·.kind)) : isCandidate cs = true := by
  obtain ⟨run, hrun, hmem⟩ := h.exists_denotes hv
  obtain ⟨c, rest, rfl, hc⟩ := hrun.exists_cons
  rw [isCandidate, Bool.and_eq_true, List.all_eq_true, List.any_eq_true]
  exact ⟨isCalculationChar_of_lexes h, c, hmem c (by simp), hc⟩

/-- What resembles a calculation is not blank. -/
theorem ne_nil_of_isCandidate {cs : List Char} (h : isCandidate cs = true) : cs ≠ [] := by
  rintro rfl
  cases h

/-! ### Reading -/

/-- A text is read in two steps, and both have to succeed. -/
theorem read_eq_ok_iff {limits : Limits} {cs : List Char} {tokens : List Token} {e : Expr} :
    read limits cs = .ok (tokens, e) ↔
      Token.readAll cs = .ok tokens ∧ Expr.ofTokens limits.depth tokens = .ok e := by
  unfold read
  constructor
  · intro h
    split at h
    · cases h
    · rename_i tokens' htokens
      split at h
      · cases h
      · rename_i e' he
        cases h
        exact ⟨htokens, he⟩
  · rintro ⟨htokens, he⟩
    rw [htokens]
    simp only [he]

/-- A text without tokens is not read. -/
theorem read_of_readAll_error {limits : Limits} {cs : List Char} {err : LexicalError}
    (h : Token.readAll cs = .error err) : read limits cs = .error (.reading err) := by
  unfold read
  rw [h]

/-- A text with tokens is read as they are. -/
theorem read_of_readAll {limits : Limits} {cs : List Char} {tokens : List Token}
    (h : Token.readAll cs = .ok tokens) :
    read limits cs = match Expr.ofTokens limits.depth tokens with
      | .error err => .error (.grammar err)
      | .ok e => .ok (tokens, e) := by
  cases htree : Expr.ofTokens limits.depth tokens with
  | error err => simp only [read, h, htree]
  | ok e => simp only [read, h, htree]

/-- Reading works nothing out, so it does not fail for a value. -/
theorem read_ne_value_error {limits : Limits} {cs : List Char} {err : EvalError} :
    read limits cs ≠ .error (.value err) := by
  unfold read
  split
  · simp
  · split
    · simp
    · simp

/-- A text is read when its lexemes derive an expression within the limits. -/
theorem exists_read_eq_ok_iff {limits : Limits} {cs : List Char} {e : Expr} :
    (∃ tokens, read limits cs = .ok (tokens, e)) ↔
      ∃ lexemes, Lexes 0 cs lexemes ∧
        DerivesWithin (min limits.depth maxHeight) .expression (lexemes.map (·.kind)) e := by
  simp only [read_eq_ok_iff, Token.readAll_eq_ok_iff, Expr.ofTokens_eq_ok_iff]
  constructor
  · rintro ⟨tokens, ⟨ts, hlexes, rfl⟩, hder⟩
    rw [Expr.body_append_finish hlexes.kind_ne_finish] at hder
    exact ⟨ts, hlexes, hder⟩
  · rintro ⟨ts, hlexes, hder⟩
    refine ⟨_, ⟨ts, hlexes, rfl⟩, ?_⟩
    rwa [Expr.body_append_finish hlexes.kind_ne_finish]

/-- A text that is read resembles a calculation. -/
theorem isCandidate_of_read {limits : Limits} {cs : List Char} {tokens : List Token} {e : Expr}
    (h : read limits cs = .ok (tokens, e)) : isCandidate cs = true := by
  obtain ⟨lexemes, hlexes, levels, hder, _⟩ := exists_read_eq_ok_iff.mp ⟨tokens, h⟩
  obtain ⟨v, hv⟩ := hder.exists_number_mem
  exact isCandidate_of_lexes hlexes hv

/-! ### The answer -/

/-- The length is in order when it is within the limit. -/
theorem checkLength_eq_ok_iff {limits : Limits} {cs : List Char} :
    checkLength limits cs = .ok () ↔ cs.length ≤ limits.length := by
  unfold checkLength
  split
  · rename_i hlt
    simpa using hlt
  · rename_i hlt
    simpa using hlt

/-- Working a text out goes on from its tree. -/
theorem value_of_read {limits : Limits} {cs : List Char} {tokens : List Token} {e : Expr}
    (h : read limits cs = .ok (tokens, e)) :
    value limits cs = match e.evaluate with
      | .ok v => .ok v
      | .error err => .error (.value err) := by
  unfold value
  rw [h]
  simp only [bind, Except.bind]
  cases e.evaluate with
  | error err => rfl
  | ok v => rfl

/-- A text that cannot be read has no value, for that reason. -/
theorem value_of_read_error {limits : Limits} {cs : List Char} {err : ArithmeticError}
    (h : read limits cs = .error err) : value limits cs = .error err := by
  unfold value
  rw [h]
  rfl

/-- A text that resembles a calculation and is too long. -/
theorem answer_of_length_lt {limits : Limits} {cs : List Char} (hcandidate : isCandidate cs = true)
    (hlength : limits.length < cs.length) :
    answer limits cs = .error (.tooLong cs.length limits.length) := by
  rw [answer, if_pos hcandidate, checkLength, if_pos hlength]
  rfl

/-- A text that resembles a calculation and is short enough. -/
theorem answer_of_length_le {limits : Limits} {cs : List Char} (hcandidate : isCandidate cs = true)
    (hlength : cs.length ≤ limits.length) :
    answer limits cs = match value limits cs with
      | .error err => .error (.arithmetic err)
      | .ok v => .ok (Decimal.write v limits.digits) := by
  rw [answer, if_pos hcandidate, checkLength_eq_ok_iff.mpr hlength]
  rfl

/-- The answer to a text that resembles a calculation, is short enough and can be read is
the outcome of working out its tree. -/
theorem answer_of_read {limits : Limits} {cs : List Char} {tokens : List Token} {e : Expr}
    (hlength : cs.length ≤ limits.length) (h : read limits cs = .ok (tokens, e)) :
    answer limits cs = match e.evaluate with
      | .ok v => .ok (Decimal.write v limits.digits)
      | .error err => .error (.arithmetic (.value err)) := by
  rw [answer_of_length_le (isCandidate_of_read h) hlength, value_of_read h]
  cases e.evaluate <;> rfl

/-- A text fails because it does not resemble a calculation, because it is too long, or
because it cannot be read. Otherwise it has a tree, and `answer_of_read` gives its answer. -/
theorem answer_cases (limits : Limits) (cs : List Char) :
    (isCandidate cs = false ∧ answer limits cs = .error (.notFound (String.ofList cs))) ∨
    (limits.length < cs.length ∧ answer limits cs = .error (.tooLong cs.length limits.length)) ∨
    (∃ err, read limits cs = .error err ∧ answer limits cs = .error (.arithmetic err)) ∨
    (cs.length ≤ limits.length ∧ ∃ tokens e, read limits cs = .ok (tokens, e)) := by
  cases hcandidate : isCandidate cs with
  | false => exact .inl ⟨rfl, by rw [answer, hcandidate]; rfl⟩
  | true =>
      by_cases hlength : cs.length ≤ limits.length
      · cases hread : read limits cs with
        | error err =>
            refine .inr (.inr (.inl ⟨err, rfl, ?_⟩))
            rw [answer_of_length_le hcandidate hlength, value_of_read_error hread]
        | ok result => exact .inr (.inr (.inr ⟨hlength, result.1, result.2, rfl⟩))
      · have hlong := Nat.lt_of_not_le hlength
        exact .inr (.inl ⟨hlong, answer_of_length_lt hcandidate hlong⟩)

/-- An answer has a tree behind it. -/
theorem exists_read_of_answer {limits : Limits} {cs : List Char} {a : String}
    (h : answer limits cs = .ok a) :
    cs.length ≤ limits.length ∧ ∃ tokens e, read limits cs = .ok (tokens, e) := by
  obtain ⟨_, herror⟩ | ⟨_, herror⟩ | ⟨_, _, herror⟩ | hread := answer_cases limits cs
  · cases herror.symm.trans h
  · cases herror.symm.trans h
  · cases herror.symm.trans h
  · exact hread

/-- An answer is what the value of the tree is written as. -/
theorem exists_evaluate_of_answer {limits : Limits} {cs : List Char} {a : String}
    (h : answer limits cs = .ok a) :
    ∃ tokens e v, read limits cs = .ok (tokens, e) ∧ e.evaluate = .ok v ∧
      a = Decimal.write v limits.digits := by
  obtain ⟨hlength, tokens, e, hread⟩ := exists_read_of_answer h
  rw [answer_of_read hlength hread] at h
  split at h
  · rename_i v hv
    cases h
    exact ⟨tokens, e, v, hread, hv, rfl⟩
  · cases h

/-- A text fails while it is worked out when it is short enough, can be read, and its tree
has no value. -/
theorem answer_eq_value_error_iff {limits : Limits} {cs : List Char} {err : EvalError} :
    answer limits cs = .error (.arithmetic (.value err)) ↔
      cs.length ≤ limits.length ∧
        ∃ tokens e, read limits cs = .ok (tokens, e) ∧ e.evaluate = .error err := by
  constructor
  · intro h
    obtain ⟨_, herror⟩ | ⟨_, herror⟩ | ⟨err', hread, herror⟩ | ⟨hlength, tokens, e, hread⟩ :=
      answer_cases limits cs
    · cases herror.symm.trans h
    · cases herror.symm.trans h
    · -- What keeps a text from being read is never an error of evaluation.
      cases herror.symm.trans h
      exact absurd hread read_ne_value_error
    · rw [answer_of_read hlength hread] at h
      split at h
      · cases h
      · rename_i err' herr
        cases h
        exact ⟨hlength, tokens, e, hread, herr⟩
  · rintro ⟨hlength, tokens, e, hread, herr⟩
    rw [answer_of_read hlength hread, herr]

/-- **A text is answered when it is a calculation**, with the exact value of its tree. The
limit on levels is one that the reader keeps. -/
theorem answer_eq_ok_iff {limits : Limits} (hdepth : limits.depth ≤ maxHeight)
    {cs : List Char} {a : String} :
    answer limits cs = .ok a ↔
      ∃ e, IsCalculation limits cs e ∧ a = Decimal.write e.exactValue limits.digits := by
  have hmin : min limits.depth maxHeight = limits.depth := min_eq_left hdepth
  constructor
  · intro h
    obtain ⟨hlength, _⟩ := exists_read_of_answer h
    obtain ⟨tokens, e, v, hread, hv, rfl⟩ := exists_evaluate_of_answer h
    obtain ⟨hdiv, hfits, rfl⟩ := Expr.evaluate_eq_ok_iff.mp hv
    obtain ⟨lexemes, hlexes, levels, hder, hlevels, hheight⟩ :=
      exists_read_eq_ok_iff.mp ⟨tokens, hread⟩
    rw [hmin] at hlevels
    exact ⟨e, ⟨hlength, ⟨lexemes, levels, hlexes, hder, hlevels⟩, hheight, hdiv, hfits⟩, rfl⟩
  · rintro ⟨e, ⟨hlength, ⟨lexemes, levels, hlexes, hder, hlevels⟩, hheight, hdiv, hfits⟩, rfl⟩
    obtain ⟨tokens, hread⟩ := exists_read_eq_ok_iff.mpr
      ⟨lexemes, hlexes, levels, hder, by rwa [hmin], hheight⟩
    rw [answer_of_read hlength hread, Expr.evaluate_eq_ok_iff.mpr ⟨hdiv, hfits, rfl⟩]

/-! ### The explanation -/

/-- A text that is too long is not explained. -/
theorem explain_of_length_lt {limits : Limits} {text : String}
    (hlength : limits.length < (Text.trim text.toList).length) :
    explain limits text
      = .error (.tooLong (Text.trim text.toList).length limits.length) := by
  rw [explain, checkLength, if_pos hlength]
  rfl

/-- A text that is short enough is explained if it can be read. -/
theorem explain_of_length_le {limits : Limits} {text : String}
    (hlength : (Text.trim text.toList).length ≤ limits.length) :
    explain limits text = match read limits (Text.trim text.toList) with
      | .error err => .error (.arithmetic err)
      | .ok (tokens, e) => .ok ⟨Token.line tokens, e.text⟩ := by
  rw [explain, checkLength_eq_ok_iff.mpr hlength]
  rfl

/-- What keeps a text that resembles a calculation from being explained keeps it from being
answered. -/
theorem answer_of_explain_error {limits : Limits} {text : String} {err : ResolutionError}
    (hcandidate : isCandidate (Text.trim text.toList) = true)
    (h : explain limits text = .error err) :
    answer limits (Text.trim text.toList) = .error err := by
  -- Both measure the text before they read it.
  by_cases hlength : (Text.trim text.toList).length ≤ limits.length
  · rw [explain_of_length_le hlength] at h
    split at h
    · rename_i err' hread
      cases h
      rw [answer_of_length_le hcandidate hlength, value_of_read_error hread]
    · cases h
  · have hlong := Nat.lt_of_not_le hlength
    rw [explain_of_length_lt hlong] at h
    cases h
    exact answer_of_length_lt hcandidate hlong

/-- A text is explained by the tokens and the tree that it is read as. -/
theorem explain_eq_ok_iff {limits : Limits} {text : String} {d : Explanation} :
    explain limits text = .ok d ↔
      (Text.trim text.toList).length ≤ limits.length ∧
        ∃ tokens e, read limits (Text.trim text.toList) = .ok (tokens, e) ∧
          d = ⟨Token.line tokens, e.text⟩ := by
  constructor
  · intro h
    have hlength : (Text.trim text.toList).length ≤ limits.length := by
      by_contra hlong
      rw [explain_of_length_lt (Nat.lt_of_not_le hlong)] at h
      cases h
    rw [explain_of_length_le hlength] at h
    split at h
    · cases h
    · rename_i tokens e hread
      cases h
      exact ⟨hlength, tokens, e, hread, rfl⟩
  · rintro ⟨hlength, tokens, e, hread, rfl⟩
    rw [explain_of_length_le hlength, hread]

end Calculation

/-! ### Asking the known questions -/

section
variable {m : Type → Type} [Monad m]

/-- What becomes of a trimmed question when the known ones have been asked. -/
def settled (limits : Limits) (cs : List Char) :
    Option String → Except ResolutionError String
  | some answer => .ok answer
  | none => Calculation.answer limits cs

/-- Nothing is asked for a blank question. -/
theorem resolveWith_of_blank (ask : String → m (Option String)) (limits : Limits)
    {question : String} (hblank : Text.trim question.toList = []) :
    resolveWith ask limits question = pure (.error .emptyQuestion) := by
  rw [resolveWith, hblank]

/-- **Any other question asks for its key, and nothing else happens.** -/
theorem resolveWith_eq_map [LawfulMonad m] (ask : String → m (Option String)) (limits : Limits)
    {question : String} (hblank : Text.trim question.toList ≠ []) :
    resolveWith ask limits question
      = settled limits (Text.trim question.toList) <$>
          ask (String.ofList (Text.lowercase (Text.trim question.toList))) := by
  unfold resolveWith
  split
  · rename_i hnil
    exact absurd hnil hblank
  · rename_i c cs hcons
    rw [hcons, map_eq_pure_bind]
    refine bind_congr fun found => ?_
    cases found with
    | none => rfl
    | some answer => rfl

end

namespace Resolver

/-- A question that is not blank and not among the known ones gets the answer to the
trimmed question. -/
theorem resolve_of_miss {r : Resolver} {question : String}
    (hblank : Text.trim question.toList ≠ [])
    (hmiss : r.lookup (String.ofList (Text.lowercase (Text.trim question.toList))) = none) :
    r.resolve question = Calculation.answer r.limits (Text.trim question.toList) := by
  rw [resolve, resolveWith_eq_map _ _ hblank, hmiss]
  rfl

/-- A blank question is not asked. -/
theorem resolve_of_blank {r : Resolver} {question : String}
    (hblank : Text.trim question.toList = []) : r.resolve question = .error .emptyQuestion := by
  rw [resolve, resolveWith_of_blank _ _ hblank]
  rfl

/-- A question that is not blank and among the known ones gets the known answer, whatever it
looks like. -/
theorem resolve_of_hit {r : Resolver} {question a : String}
    (hblank : Text.trim question.toList ≠ [])
    (hhit : r.lookup (String.ofList (Text.lowercase (Text.trim question.toList))) = some a) :
    r.resolve question = .ok a := by
  rw [resolve, resolveWith_eq_map _ _ hblank, hhit]
  rfl

/-- An answer that is not a known one was calculated. -/
theorem answer_of_resolve_ok {r : Resolver} {question a : String}
    (hmiss : r.lookup (String.ofList (Text.lowercase (Text.trim question.toList))) = none)
    (h : r.resolve question = .ok a) :
    Calculation.answer r.limits (Text.trim question.toList) = .ok a := by
  by_cases hblank : Text.trim question.toList = []
  · rw [resolve_of_blank hblank] at h
    cases h
  · rwa [resolve_of_miss hblank hmiss] at h

/-- An answer is the known one, or it was calculated. -/
theorem known_or_calculated_of_resolve_ok {r : Resolver} {question a : String}
    (h : r.resolve question = .ok a) :
    r.lookup (String.ofList (Text.lowercase (Text.trim question.toList))) = some a ∨
      r.lookup (String.ofList (Text.lowercase (Text.trim question.toList))) = none ∧
        Calculation.answer r.limits (Text.trim question.toList) = .ok a := by
  cases hlookup : r.lookup (String.ofList (Text.lowercase (Text.trim question.toList))) with
  | none => exact .inr ⟨rfl, answer_of_resolve_ok hlookup h⟩
  | some known =>
      have hblank : Text.trim question.toList ≠ [] := by
        intro hnil
        rw [resolve_of_blank hnil] at h
        cases h
      rw [resolve_of_hit hblank hlookup] at h
      cases h
      exact .inl rfl

/-- A question that is not blank fails for what is wrong with it as a calculation. -/
theorem answer_of_resolve_error {r : Resolver} {question : String} {err : ResolutionError}
    (h : r.resolve question = .error err) (herr : err ≠ .emptyQuestion) :
    Calculation.answer r.limits (Text.trim question.toList) = .error err := by
  by_cases hblank : Text.trim question.toList = []
  · rw [resolve_of_blank hblank] at h
    cases h
    exact absurd rfl herr
  · cases hlookup : r.lookup (String.ofList (Text.lowercase (Text.trim question.toList))) with
    | none => rwa [resolve_of_miss hblank hlookup] at h
    | some a =>
        rw [resolve_of_hit hblank hlookup] at h
        cases h

/-- **A question that is not among the known ones is answered exactly when it is a
calculation** that can be worked out within the limits, and the answer is the decimal text
of its exact value. -/
theorem resolve_eq_ok_iff (lookup : String → Option String) (limits : Limits)
    (question a : String) (hblank : Text.trim question.toList ≠ [])
    (hmiss : lookup (String.ofList (Text.lowercase (Text.trim question.toList))) = none) :
    (withLimits lookup limits).resolve question = .ok a ↔
      ∃ e, IsCalculation limits.capped (Text.trim question.toList) e ∧
        a = Decimal.write e.exactValue limits.capped.digits := by
  rw [resolve_of_miss hblank hmiss]
  exact Calculation.answer_eq_ok_iff (min_le_right limits.depth maxHeight)

/-- ` 1 / -(2.5) ` is a calculation with two levels, and its answer is `-0.4`. -/
theorem quotient_resolves :
    let lookup : String → Option String := fun _ => none
    Text.trim " 1 / -(2.5) ".toList ≠ [] ∧
      (withLimits lookup {}).resolve " 1 / -(2.5) " = .ok "-0.4" := by
  intro lookup
  have hblank : Text.trim " 1 / -(2.5) ".toList ≠ [] := by decide +kernel
  let limits : Limits := {}
  let e : Expr := .binary .div (.literal 1) (.negate (.literal (5 / 2)))
  have hread : Calculation.read limits.capped (Text.trim " 1 / -(2.5) ".toList)
      = .ok ([⟨.number 1, 0⟩, ⟨.operator .div, 2⟩, ⟨.operator .sub, 4⟩, ⟨.opening, 5⟩,
        ⟨.number (5 / 2), 6⟩, ⟨.closing, 9⟩, ⟨.finish, 10⟩], e) := by decide +kernel
  obtain ⟨lexemes, hlexes, levels, hder, hlevels, hheight⟩ :=
    Calculation.exists_read_eq_ok_iff.mp ⟨_, hread⟩
  have hcalculation : IsCalculation limits.capped (Text.trim " 1 / -(2.5) ".toList) e :=
    { length_le := by decide +kernel
      derives := ⟨lexemes, levels, hlexes, hder, hlevels⟩
      height_le := hheight
      divisor_ne_zero := by
        intro a b hmem
        obtain ⟨_, rfl⟩ : a = .literal 1 ∧ b = .negate (.literal (5 / 2)) := by
          simpa [e, Expr.postorder] using hmem
        decide +kernel
      fits := by decide +kernel }
  exact ⟨hblank, (resolve_eq_ok_iff lookup limits _ _ hblank rfl).mpr
    ⟨e, hcalculation, by decide +kernel⟩⟩

/-! ### Explanations -/

/-- **The explanation and the answer agree.** Take a question that resembles a calculation
and is not among the known ones. If it cannot be explained, it cannot be answered, for the
same reason. If it can, both come from the same tokens and the same tree, and the answer is
the outcome of working out that tree, so it can only fail there. In particular every answer
has an explanation. -/
theorem explain_and_resolve_agree (r : Resolver) (question : String)
    (hcandidate : Calculation.isCandidate (Text.trim question.toList) = true)
    (hmiss : r.lookup (String.ofList (Text.lowercase (Text.trim question.toList))) = none) :
    (∀ err, r.explain question = .error err → r.resolve question = .error err) ∧
    (∀ d, r.explain question = .ok d →
      (∃ tokens e, Token.readAll (Text.trim question.toList) = .ok tokens ∧
        Expr.ofTokens r.limits.depth tokens = .ok e ∧ d = ⟨Token.line tokens, e.text⟩ ∧
        r.resolve question = match e.evaluate with
          | .ok v => .ok (Decimal.write v r.limits.digits)
          | .error err => .error (.arithmetic (.value err))) ∧
      ((∃ a, r.resolve question = .ok a) ∨
        ∃ err, r.resolve question = .error (.arithmetic (.value err)))) ∧
    (∀ a, r.resolve question = .ok a → ∃ d, r.explain question = .ok d) := by
  rw [resolve_of_miss (Calculation.ne_nil_of_isCandidate hcandidate) hmiss]
  refine ⟨fun err herr => Calculation.answer_of_explain_error hcandidate herr, ?_, ?_⟩
  · intro d hd
    obtain ⟨hlength, tokens, e, hread, rfl⟩ := Calculation.explain_eq_ok_iff.mp hd
    have hanswer := Calculation.answer_of_read hlength hread
    obtain ⟨htokens, he⟩ := Calculation.read_eq_ok_iff.mp hread
    refine ⟨⟨tokens, e, htokens, he, rfl, hanswer⟩, ?_⟩
    rw [hanswer]
    cases e.evaluate with
    | ok v => exact .inl ⟨_, rfl⟩
    | error err => exact .inr ⟨err, rfl⟩
  · intro a ha
    obtain ⟨hlength, tokens, e, hread⟩ := Calculation.exists_read_of_answer ha
    exact ⟨_, Calculation.explain_eq_ok_iff.mpr ⟨hlength, tokens, e, hread, rfl⟩⟩

/-- `-(1 / 2)` has two levels. With one allowed, the question is neither explained nor
answered, and both name the parenthesis at position 1. -/
theorem deep_question_fails_alike :
    let r := withLimits (fun _ => none) { depth := 1 }
    Calculation.isCandidate (Text.trim "-(1 / 2)".toList) = true ∧
      r.explain "-(1 / 2)" = .error (.arithmetic (.grammar (.tooDeep 1 1))) ∧
      r.resolve "-(1 / 2)" = .error (.arithmetic (.grammar (.tooDeep 1 1))) := by
  intro r
  have hcandidate : Calculation.isCandidate (Text.trim "-(1 / 2)".toList) = true := by
    decide +kernel
  have hexplain : r.explain "-(1 / 2)" = .error (.arithmetic (.grammar (.tooDeep 1 1))) := by
    decide +kernel
  exact ⟨hcandidate, hexplain,
    (explain_and_resolve_agree r _ hcandidate rfl).1 _ hexplain⟩

end Resolver

end AnswerDesk
