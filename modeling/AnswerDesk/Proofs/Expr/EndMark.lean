import AnswerDesk.Proofs.Expr.Parallel
import Mathlib.Data.List.TakeWhile

/-!
# `AnswerDesk.Proofs.Expr.EndMark`: reading ends at the first end mark

`ofTokens` cuts a sequence of tokens at its first end mark and reads what is before it. So it is
plain that nothing behind that mark matters, and one might think that the rules of the grammar
have to be kept from it. They do not. `ofAllTokens` lets them loose on the whole sequence, with
further marks and tokens behind the first one, or with no mark at all, and what comes out is the
same (`ofTokens_eq_ofAllTokens`): a tree, or an error at the same position. No rule takes a mark,
whether it succeeds or fails and however many levels are open, and at the end of the tokens
nothing is missing but a mark at the position of the last one.

The two readings run side by side (`Proofs.Expr.Parallel`). The one has what is behind the cut as
its tail, and the tail begins with a mark or is empty, so it looks like the end of the other.
-/

set_option autoImplicit false

namespace AnswerDesk.Expr

/-- Nothing is left to be read: there are no tokens, or the next one is an end mark. -/
def isAtEnd : List Token → Bool
  | [] => true
  | t :: _ => t.kind = .finish

/-- The position of the last token, or that of the first character if there is none. -/
def lastPos (tokens : List Token) : Nat :=
  (tokens.getLast?.map (·.pos)).getD 0

/-- The tree of a sequence of tokens that is not cut. The rules see everything, and where the
tokens run out, the end is at the last of them. -/
def ofAllTokens (depth : Nat) (tokens : List Token) : Except GrammarError Expr :=
  let limit := min depth maxHeight
  let finish := lastPos tokens
  if isAtEnd tokens then
    .error .emptyExpression
  else
    match expression (factor limit finish limit) tokens with
    | .error err => .error err
    | .ok (e, rest) =>
      if isAtEnd rest then .ok e else .error (unexpectedAt finish .operatorOrEnd rest)

theorem isAtEnd_of_looksLikeEnd {finish pos : Nat} {tail : List Token}
    (h : LooksLikeEnd finish pos tail) : isAtEnd tail = true := by
  cases tail with
  | nil => rfl
  | cons t tail =>
      cases h
      rfl

/-- There is no end mark in the body of a sequence. -/
theorem isAtEnd_append_of_mem_body {tokens : List Token} {t : Token} (ht : t ∈ body tokens)
    (rest : List Token) : isAtEnd (t :: rest) = false := by
  have hkind := List.mem_takeWhile_imp ht
  simpa [isAtEnd] using hkind

/-- What is behind the body of a sequence begins with the mark that ends it. If there is none,
the body is the whole sequence, and it ends with its last token. -/
theorem exists_eq_body_append (tokens : List Token) :
    ∃ tail, tokens = body tokens ++ tail ∧
      LooksLikeEnd (lastPos tokens) (finishPos tokens) tail := by
  cases hfind : tokens.find? (·.kind = .finish) with
  | none =>
      have hnone : ∀ t ∈ tokens, t.kind ≠ .finish := by simpa using hfind
      have hbody : body tokens = tokens := List.takeWhile_eq_self_iff.mpr (by simpa using hnone)
      refine ⟨[], by rw [hbody, List.append_nil], ?_⟩
      show lastPos tokens = finishPos tokens
      rw [finishPos, hfind, lastPos]
  | some mark =>
      obtain ⟨hmark, ts, more, hsplit, hts⟩ := List.find?_eq_some_iff_append.mp hfind
      obtain ⟨kind, pos⟩ := mark
      obtain rfl : kind = .finish := by simpa using hmark
      refine ⟨⟨.finish, pos⟩ :: more, ?_, ?_⟩
      · rw [hsplit, body_append_finish (by simpa using hts)]
      · show (⟨.finish, pos⟩ : Token) = ⟨.finish, finishPos tokens⟩
        rw [finishPos, hfind]

/-- Behind the cut and without it, an expression is read alike. -/
theorem follows_expression_uncut {finish pos : Nat} {tail : List Token}
    (hend : LooksLikeEnd finish pos tail) (limit : Nat) :
    Follows id tail (fun _ => False) (expression (factor limit pos limit))
      (expression (factor limit finish limit)) := by
  have hsame : LooksLikeEnd finish (id pos) tail := hend
  exact follows_expression hsame (follows_factor hsame (Nat.le_refl limit) (.inl ⟨rfl, rfl⟩))

/-- **The rules stop at the first end mark by themselves.** The cut takes nothing from them that
they would have used. -/
theorem ofTokens_eq_ofAllTokens (depth : Nat) (tokens : List Token) :
    ofTokens depth tokens = ofAllTokens depth tokens := by
  obtain ⟨tail, hsplit, hend⟩ := exists_eq_body_append tokens
  have hatEnd := isAtEnd_of_looksLikeEnd hend
  have hfollows := follows_expression_uncut hend (min depth maxHeight)
  unfold ofTokens ofAllTokens
  cases hbody : body tokens with
  | nil =>
      rw [hbody, List.nil_append] at hsplit
      rw [if_pos (by rwa [hsplit])]
  | cons t ts =>
      have ht : t ∈ body tokens := by simp [hbody]
      have hmore : isAtEnd tokens = false := by
        rw [hsplit, hbody]
        exact isAtEnd_append_of_mem_body ht _
      rw [hbody] at hsplit
      rw [if_neg (by simp [hmore])]
      cases hread : expression
          (factor (min depth maxHeight) (finishPos tokens) (min depth maxHeight)) (t :: ts) with
      | error err =>
          obtain hnever | herr := hfollows.of_error hread
          · exact hnever.elim
          · rw [Token.map_moved_id, ← hsplit, GrammarError.moved_id] at herr
            simp only [hread, herr]
      | ok result =>
          obtain ⟨e, rest⟩ := result
          have hok := hfollows.of_ok hread
          rw [Token.map_moved_id, ← hsplit, Token.map_moved_id] at hok
          simp only [hread, hok]
          cases rest with
          | nil => rw [List.nil_append, if_pos hatEnd]
          | cons r rest =>
              -- What was not used stood before the mark.
              obtain ⟨us, hus, -⟩ := sound_expression (sound_factor _ _ _) _ _ _ hread
              have hmem : r ∈ body tokens := by simp [hbody, hus]
              rw [List.cons_append, if_neg (by simp [isAtEnd_append_of_mem_body hmem])]
              rfl

/-! ### What is behind the mark -/

/-- Only the body and the position of the end mark are read. -/
theorem ofTokens_congr {tokens tokens' : List Token} (hbody : body tokens = body tokens')
    (hfinish : finishPos tokens = finishPos tokens') (depth : Nat) :
    ofTokens depth tokens = ofTokens depth tokens' := by
  unfold ofTokens
  rw [hbody, hfinish]

/-- A mark adds nothing to the body, and neither does what is behind it. -/
theorem body_append_mark (ts : List Token) (pos : Nat) (more : List Token) :
    body (ts ++ ⟨.finish, pos⟩ :: more) = body ts := by
  induction ts with
  | nil => rfl
  | cons t ts ih =>
      unfold body at ih ⊢
      rw [List.cons_append, List.takeWhile_cons, List.takeWhile_cons, ih]

/-- The end is at this mark, or at one before it. -/
theorem finishPos_append_mark (ts : List Token) (pos : Nat) (more more' : List Token) :
    finishPos (ts ++ ⟨.finish, pos⟩ :: more) = finishPos (ts ++ ⟨.finish, pos⟩ :: more') := by
  simp [finishPos, List.find?_append]

/-- Without an end mark the end is at the last token. -/
theorem finishPos_of_forall {ts : List Token} (hts : ∀ t ∈ ts, t.kind ≠ .finish) :
    finishPos ts = lastPos ts := by
  have hnone : ts.find? (·.kind = .finish) = none := by simpa using hts
  rw [finishPos, hnone, lastPos]

/-- **Reading ends at the first end mark.** Any tokens have a tree or an error. It is what the
rules of the grammar find on the whole sequence, without a cut. What stands behind an end mark
may be replaced by anything or left out, and where there is no mark, one may be put behind the
last token, at its position. -/
theorem reading_ends_at_first_mark (depth : Nat) (ts : List Token) :
    ofTokens depth ts = ofAllTokens depth ts ∧
    (∀ (pos : Nat) (more more' : List Token),
      ofTokens depth (ts ++ ⟨.finish, pos⟩ :: more)
        = ofTokens depth (ts ++ ⟨.finish, pos⟩ :: more')) ∧
    ((∀ t ∈ ts, t.kind ≠ .finish) →
      ofTokens depth ts = ofTokens depth (ts ++ [⟨.finish, lastPos ts⟩])) := by
  refine ⟨ofTokens_eq_ofAllTokens depth ts, fun pos more more' => ?_, fun hts => ?_⟩
  · refine ofTokens_congr ?_ (finishPos_append_mark ts pos more more') depth
    rw [body_append_mark, body_append_mark]
  · refine ofTokens_congr (body_append_mark ts _ []).symm ?_ depth
    rw [finishPos_of_forall hts, finishPos_append_finish hts]

/-- A parenthesis behind the mark does not close the one in `(1`. Without a mark, it is missed at
the position of the number. -/
theorem closing_behind_mark_unread :
    ofTokens 64 [⟨.opening, 0⟩, ⟨.number 1, 7⟩, ⟨.finish, 3⟩, ⟨.closing, 4⟩, ⟨.finish, 5⟩]
      = .error (.unexpected .finish .closing 3) ∧
    (∀ t ∈ [(⟨.opening, 0⟩ : Token), ⟨.number 1, 7⟩], t.kind ≠ .finish) ∧
    ofTokens 64 [⟨.opening, 0⟩, ⟨.number 1, 7⟩] = .error (.unexpected .finish .closing 7) := by
  obtain ⟨-, hmore, hnone⟩ := reading_ends_at_first_mark 64 [⟨.opening, 0⟩, ⟨.number 1, 7⟩]
  have hts : ∀ t ∈ [(⟨.opening, 0⟩ : Token), ⟨.number 1, 7⟩], t.kind ≠ .finish := by decide
  refine ⟨?_, hts, ?_⟩
  · refine (hmore 3 [⟨.closing, 4⟩, ⟨.finish, 5⟩] []).trans ?_
    cbv
  · refine (hnone hts).trans ?_
    cbv

end AnswerDesk.Expr
