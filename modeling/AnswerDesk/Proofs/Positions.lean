import AnswerDesk.Proofs.Expr.Parallel
import AnswerDesk.Resolver

/-!
# `AnswerDesk.Proofs.Positions`: positions are for messages only

Tokens and errors carry positions, so that a message can say where something is. Nothing else
depends on them. To say so, the positions in a token or an error are replaced by their images
under a function (`Token.moved`, `LexicalError.moved`, `GrammarError.moved`).

* `readOnto_moved`: a text that starts later has the same tokens later, or the same error.
* `ofTokens_moved`: tokens have the same tree wherever they stand, or the same error at the
  position where its token stands now. This holds of any function. It need not even keep the
  order.

The second compares two readings that take the same way (`Expr.ofTokens_follows`).
-/

set_option autoImplicit false

namespace AnswerDesk

/-- The error at the image of its position. -/
def LexicalError.moved (f : Nat → Nat) : LexicalError → LexicalError
  | .unexpectedCharacter c pos => .unexpectedCharacter c (f pos)
  | .malformedNumber run pos => .malformedNumber run (f pos)

/-- The error at the image of its position. A calculation that fails while it is worked out
names no position. -/
def ArithmeticError.moved (f : Nat → Nat) : ArithmeticError → ArithmeticError
  | .reading e => .reading (e.moved f)
  | .grammar e => .grammar (e.moved f)
  | .value e => .value e

/-! ### Tokens of a text -/

namespace Token

/-- A text that starts `n` characters later has its tokens, or its error, that much later. -/
theorem readOnto_moved {f : Nat → Nat} {n pos : Nat} {out : List Token} {cs : List Char}
    (hf : ∀ p, pos ≤ p → f p = p + n) :
    readOnto (pos + n) (out.map (Token.moved f)) cs
      = ((readOnto pos out cs).map (List.map (Token.moved f))).mapError (LexicalError.moved f) := by
  have hpos : f pos = pos + n := hf pos (Nat.le_refl pos)
  -- What is read next stands further back, where `f` is known too.
  have hbehind : ∀ m p, pos + m ≤ p → f p = p + n := fun m p hp => hf p (by omega)
  fun_induction readOnto pos out cs with
  | case1 pos out =>
      rw [readOnto.eq_def]
      show Except.ok _ = Except.ok (List.map _ _)
      simp [Token.moved, hpos]
  | case2 pos out c rest hc ih =>
      have hrest := ih (hbehind 1) (hbehind 1 _ (Nat.le_refl _)) fun m p hp => hf p (by omega)
      rw [readOnto.eq_def]
      simp only [if_pos hc]
      rw [← hrest, Nat.add_right_comm]
  | case3 pos out c rest hblank kind hc ih =>
      have hrest := ih (hbehind 1) (hbehind 1 _ (Nat.le_refl _)) fun m p hp => hf p (by omega)
      rw [readOnto.eq_def]
      simp only [if_neg hblank, hc]
      rw [← hrest, Nat.add_right_comm, List.map_cons, Token.moved, hpos]
  | case4 pos out c rest hblank hsymbol hdigit run v hv ih =>
      have hrest := ih (hbehind _) (hbehind _ _ (Nat.le_refl _)) fun m p hp => hf p (by omega)
      rw [readOnto.eq_def]
      simp only [if_neg hblank, hsymbol, if_pos hdigit, run, hv]
      rw [← hrest, Nat.add_right_comm, List.map_cons, Token.moved, hpos]
  | case5 pos out c rest hblank hsymbol hdigit run hnone =>
      rw [readOnto.eq_def]
      simp only [if_neg hblank, hsymbol, if_pos hdigit, run, hnone]
      show Except.error _ = Except.error (LexicalError.moved f _)
      rw [LexicalError.moved, hpos]
  | case6 pos out c rest hblank hsymbol hdigit =>
      rw [readOnto.eq_def]
      simp only [if_neg hblank, hsymbol, if_neg hdigit]
      show Except.error _ = Except.error (LexicalError.moved f _)
      rw [LexicalError.moved, hpos]

end Token

/-! ### The tree of tokens -/

namespace Expr

theorem body_moved (f : Nat → Nat) (tokens : List Token) :
    body (tokens.map (Token.moved f)) = (body tokens).map (Token.moved f) := by
  unfold body
  rw [List.takeWhile_map]
  rfl

/-- The end mark moves with the tokens. Without any tokens it has nowhere to move. -/
theorem finishPos_moved (f : Nat → Nat) {tokens : List Token} (hne : tokens ≠ []) :
    finishPos (tokens.map (Token.moved f)) = f (finishPos tokens) := by
  have hfind : (tokens.map (Token.moved f)).find? (·.kind = .finish)
      = (tokens.find? (·.kind = .finish)).map (Token.moved f) := by
    rw [List.find?_map]
    rfl
  unfold finishPos
  rw [hfind]
  cases tokens.find? (·.kind = .finish) with
  | some mark => rfl
  | none =>
      obtain ⟨last, hlast⟩ := Option.isSome_iff_exists.mp (List.getLast?_isSome.mpr hne)
      simp [hlast]

/-- **The tree of tokens does not depend on their positions**, and neither does the error, but
for the position that it names. -/
theorem ofTokens_moved (f : Nat → Nat) (depth : Nat) (tokens : List Token) :
    ofTokens depth (tokens.map (Token.moved f))
      = (ofTokens depth tokens).mapError (GrammarError.moved f) := by
  -- There is a token in the body, so the end of the text has a position that is moved.
  have hfinish : body tokens ≠ [] → finishPos (tokens.map (Token.moved f)) = f (finishPos tokens) :=
    fun hbody => finishPos_moved f fun hnil => hbody (by rw [hnil]; rfl)
  obtain ⟨err, -, hnever⟩ | hmoved := ofTokens_follows (fun _ => False)
    (body_moved f tokens) hfinish (Nat.le_refl (min depth maxHeight)) (.inl rfl)
  · exact hnever.elim
  · exact hmoved

end Expr

end AnswerDesk
