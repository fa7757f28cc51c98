import AnswerDesk.Proofs.Positions
import AnswerDesk.Proofs.Resolver
import AnswerDesk.Proofs.Token.Runs

/-!
# `AnswerDesk.Proofs.Resolver.Spacing`: blanks between lexemes

Blanks separate lexemes and mean nothing else. They may be put in or left out wherever they do
not part a run of digits and points, and all that changes is where things stand. The tokens keep
their kinds, the tree stays, and an error stays the same error, at the place where its cause
stands now.

A text is read in two parts for this (`readOnto_append`): where two texts are parted, the second
is read behind the tokens of the first, and an error of the first is an error of both. Blanks in
front of the second only make it start later (`readOnto_blanks`), and a text that starts later
is read alike (`readOnto_moved`). From tokens to trees positions play no part
(`Expr.ofTokens_moved`).

`blanks_only_move_positions` is the main result.
-/

set_option autoImplicit false

namespace AnswerDesk

open Decimal (isNumeralChar numeralValue?)
open Text (takeWhile_run dropWhile_run head?_dropWhile_run)

/-- Where a position comes to stand when `n` characters are put in at `start`. -/
def shiftFrom (start n p : Nat) : Nat :=
  if p < start then p else p + n

namespace Token

/-! ### Two texts, one behind the other -/

/-- Behind a digit or a point, the run that begins there ends in the first of two texts that
are parted. -/
theorem takeWhile_append_of_parted {c : Char} {a b : List Char} (hc : isNumeralChar c = true)
    (hab : Parted (c :: a) b) :
    (a ++ b).takeWhile isNumeralChar = a.takeWhile isNumeralChar ∧
      (a ++ b).dropWhile isNumeralChar = a.dropWhile isNumeralChar ++ b := by
  have hrun : ∀ x ∈ a.takeWhile isNumeralChar, isNumeralChar x = true :=
    fun x hx => List.mem_takeWhile_imp hx
  have hhead : ∀ x ∈ (a.dropWhile isNumeralChar ++ b).head?, isNumeralChar x = false := by
    intro x hx
    cases hrest : a.dropWhile isNumeralChar with
    | nil =>
        -- The run goes on to the end of the first text, where the second is parted from it.
        rw [hrest] at hx
        have hall : ∀ y ∈ c :: a, isNumeralChar y = true := by
          have ha := List.dropWhile_eq_nil_iff.mp hrest
          simpa [hc] using ha
        obtain ⟨y, hy⟩ := Option.isSome_iff_exists.mp
          (List.getLast?_isSome.mpr (List.cons_ne_nil c a))
        exact hab y hy x hx (hall y (List.mem_of_getLast? hy))
    | cons d rest =>
        have hd := head?_dropWhile_run isNumeralChar a
        rw [hrest] at hx hd
        exact hd x (by simpa using hx)
  have hsplit : a ++ b = a.takeWhile isNumeralChar ++ (a.dropWhile isNumeralChar ++ b) := by
    rw [← List.append_assoc, List.takeWhile_append_dropWhile]
  rw [hsplit]
  exact ⟨takeWhile_run hrun hhead, dropWhile_run hrun hhead⟩

/-- **Two texts that are parted are read one after the other.** The second is read behind the
tokens of the first, without its end mark, and not at all if the first has an error. -/
theorem readOnto_append {pos : Nat} {out : List Token} {a b : List Char} (hab : Parted a b) :
    readOnto pos out (a ++ b) = (readOnto pos out a).bind fun tokens =>
      readOnto (pos + a.length) tokens.dropLast.reverse b := by
  -- One case for each branch of the reader on the first text. The second one is never looked
  -- at before the first has come to its end.
  fun_induction readOnto pos out a with
  | case1 pos out => simp [Except.bind]
  | case2 pos out c rest hc ih =>
      have hrest := ih (Parted.of_append (a := [c]) hab)
      rw [List.cons_append, readOnto.eq_def]
      simp only [if_pos hc, hrest, List.length_cons, Nat.add_assoc, Nat.add_comm 1]
  | case3 pos out c rest hblank kind hc ih =>
      have hrest := ih (Parted.of_append (a := [c]) hab)
      rw [List.cons_append, readOnto.eq_def]
      simp only [if_neg hblank, hc, hrest, List.length_cons, Nat.add_assoc, Nat.add_comm 1]
  | case4 pos out c rest hblank hsymbol hdigit run v hv ih =>
      have hc : isNumeralChar c = true := by simp [isNumeralChar, hdigit]
      -- The run ends in the first text, so it is the same run in both.
      obtain ⟨htake, hdrop⟩ := takeWhile_append_of_parted hc hab
      have hsplit : run ++ rest.dropWhile isNumeralChar = c :: rest := by simp [run]
      have hlength := congrArg List.length hsplit
      rw [List.length_append] at hlength
      have hrest := ih (Parted.of_append (a := run) (by rwa [hsplit]))
      rw [Nat.add_assoc, hlength] at hrest
      rw [List.cons_append, readOnto.eq_def]
      simp only [if_neg hblank, hsymbol, if_pos hdigit, htake, hdrop]
      rw [← hrest]
      simp only [run] at hv
      simp only [hv, run]
  | case5 pos out c rest hblank hsymbol hdigit run hnone =>
      have hc : isNumeralChar c = true := by simp [isNumeralChar, hdigit]
      obtain ⟨htake, -⟩ := takeWhile_append_of_parted hc hab
      rw [List.cons_append, readOnto.eq_def]
      simp only [run] at hnone
      simp only [if_neg hblank, hsymbol, if_pos hdigit, htake, hnone, run]
      rfl
  | case6 pos out c rest hblank hsymbol hdigit =>
      rw [List.cons_append, readOnto.eq_def]
      simp only [if_neg hblank, hsymbol, if_neg hdigit]
      rfl

/-- Blanks in front of a text only make it start later. -/
theorem readOnto_blanks {w : List Char} (hw : ∀ c ∈ w, Text.isBlank c = true) (pos : Nat)
    (out : List Token) (cs : List Char) :
    readOnto pos out (w ++ cs) = readOnto (pos + w.length) out cs := by
  induction w generalizing pos with
  | nil => rfl
  | cons c w ih =>
      have hc : Text.isBlank c = true := hw c (by simp)
      rw [List.cons_append, readOnto.eq_def]
      simp only [if_pos hc]
      rw [ih (fun x hx => hw x (by simp [hx])), List.length_cons, Nat.add_assoc, Nat.add_comm 1]

/-- Blanks keep texts parted that are parted without them. -/
theorem Parted.append_blanks {a b w : List Char} (hab : Parted a b)
    (hw : ∀ c ∈ w, Text.isBlank c = true) : Parted a (w ++ b) := by
  cases w with
  | nil => exact hab
  | cons c w =>
      refine parted_of_head fun d hd => ?_
      obtain rfl : c = d := by simpa using hd
      exact isNumeralChar_of_isBlank (hw c (by simp))

/-! ### Blanks between two texts -/

/-- The error of a text stands where the reader is blocked, and does not move if that place
does not. -/
theorem Blocked.moved_eq {f : Nat → Nat} {pos : Nat} {cs : List Char} {err : LexicalError}
    (h : Blocked pos cs err) (hpos : f pos = pos) : err.moved f = err := by
  cases h with
  | malformed => simp only [LexicalError.moved, hpos]
  | unexpected => simp only [LexicalError.moved, hpos]

theorem Blocked.ne_nil {pos : Nat} {cs : List Char} {err : LexicalError}
    (h : Blocked pos cs err) : cs ≠ [] := by
  cases h with
  | malformed => simp
  | unexpected => simp

/-- Blanks between two texts that are parted move the tokens of the second, or its error. -/
theorem readAll_insert_blanks {a w b : List Char} (hw : ∀ c ∈ w, Text.isBlank c = true)
    (hab : Parted a b) :
    readAll (a ++ w ++ b)
      = ((readAll (a ++ b)).map (List.map (Token.moved (shiftFrom a.length w.length)))).mapError
        (LexicalError.moved (shiftFrom a.length w.length)) := by
  have hbefore : ∀ p, p < a.length → shiftFrom a.length w.length p = p :=
    fun p hp => if_pos hp
  have hbehind : ∀ p, a.length ≤ p → shiftFrom a.length w.length p = p + w.length :=
    fun p hp => if_neg (Nat.not_lt.mpr hp)
  rw [List.append_assoc, readAll, readAll, readOnto_append (hab.append_blanks hw),
    readOnto_append hab]
  cases hread : readOnto 0 [] a with
  | error err =>
      -- Both texts fail in `a`, where nothing moves.
      obtain ⟨before, rest, ts, hsplit, -, -, hblocked⟩ := exists_blocked_of_readOnto hread
      have hlt : 0 + before.length < a.length := by
        have := List.length_pos_iff.mpr hblocked.ne_nil
        simp [hsplit]
        omega
      show Except.error err = Except.error (err.moved _)
      rw [hblocked.moved_eq (hbefore _ hlt)]
  | ok tokens =>
      -- Both texts go on behind the tokens of `a`, the one of them later.
      obtain ⟨ts, hlexes, rfl⟩ := readAll_eq_ok_iff.mp hread
      have hstay : ts.reverse.map (Token.moved (shiftFrom a.length w.length)) = ts.reverse := by
        -- The tokens of `a` all stand inside of it.
        refine (List.map_congr_left fun t ht => ?_).trans (List.map_id _)
        have hlt := (hlexes.pos_bounds t (List.mem_reverse.mp ht)).2
        rw [Nat.zero_add] at hlt
        rw [Token.moved, hbefore _ hlt, id]
      have hmoved : readOnto (a.length + w.length) (ts.reverse.map _) b = _ :=
        readOnto_moved hbehind
      rw [hstay] at hmoved
      simp only [Except.bind, List.dropLast_concat, Nat.zero_add]
      rw [readOnto_blanks hw, hmoved]

end Token

/-- **Blanks between lexemes only move positions.** Where blanks are put in, and part no run of
digits and points, the text has the same tokens and the same tree, or the same error. What stood
behind that place stands further back, by the number of blanks. -/
theorem blanks_only_move_positions {a w b : List Char} (hw : ∀ c ∈ w, Text.isBlank c = true)
    (hab : Token.Parted a b) (limits : Limits) :
    let f := shiftFrom a.length w.length
    Token.readAll (a ++ w ++ b)
        = ((Token.readAll (a ++ b)).map (List.map (Token.moved f))).mapError
          (LexicalError.moved f) ∧
      Calculation.read limits (a ++ w ++ b)
        = ((Calculation.read limits (a ++ b)).map fun (tokens, e) =>
            (tokens.map (Token.moved f), e)).mapError (ArithmeticError.moved f) := by
  intro f
  have hread := Token.readAll_insert_blanks hw hab
  refine ⟨hread, ?_⟩
  cases htokens : Token.readAll (a ++ b) with
  | error err =>
      have hmoved : Token.readAll (a ++ w ++ b) = .error (err.moved f) := by
        rw [hread, htokens]
        rfl
      rw [Calculation.read_of_readAll_error hmoved, Calculation.read_of_readAll_error htokens]
      rfl
  | ok tokens =>
      have hmoved : Token.readAll (a ++ w ++ b) = .ok (tokens.map (Token.moved f)) := by
        rw [hread, htokens]
        rfl
      -- The tree is read from the tokens alone.
      rw [Calculation.read_of_readAll hmoved, Calculation.read_of_readAll htokens,
        Expr.ofTokens_moved]
      cases Expr.ofTokens limits.depth tokens with
      | error err => rfl
      | ok e => rfl

/-- In `(1+2 3)` the number `3` stands where the parenthesis should be closed. Two blanks behind
the sign do not help, and the `3` is then found two places later. -/
theorem blanks_move_unclosed_parenthesis :
    Token.Parted "(1+".toList "2 3)".toList ∧
    Calculation.read {} "(1+2 3)".toList
      = .error (.grammar (.unexpected (.number 3) .closing 5)) ∧
    Calculation.read {} "(1+\u00a0 2 3)".toList
      = .error (.grammar (.unexpected (.number 3) .closing 7)) := by
  have hblank : ∀ c ∈ "\u00a0 ".toList, Text.isBlank c = true :=
    List.all_eq_true.mp (by decide)
  -- The first text ends in a symbol.
  have hab : Token.Parted "(1+".toList "2 3)".toList :=
    Token.parted_of_last (by simp [isNumeralChar])
  have hread : Calculation.read {} ("(1+".toList ++ "2 3)".toList)
      = .error (.grammar (.unexpected (.number 3) .closing 5)) := by decide +kernel
  obtain ⟨-, hspaced⟩ := blanks_only_move_positions hblank hab {}
  rw [hread] at hspaced
  exact ⟨hab, hread, hspaced⟩

end AnswerDesk
