import AnswerDesk.Proofs.Resolver.Spacing
import AnswerDesk.Window
import Mathlib.Data.List.DropRight

/-!
# `AnswerDesk.Proofs.Window.Keypad`: the keys of symbols write one token each

A key that stands for an operator or a parenthesis also takes spaces away from the end of the
question, and puts spaces in. What it does differs from key to key and depends on the question.
`exists_press_eq` is all that the tokens need to know of it. The question loses nothing but
blanks at its end, and gains the character of the key with blanks around it.

Neither changes what stands before. A text whose last characters are blanks is read as the text
without them (`readAll_append_blanks`), and one that ends in a symbol between blanks as the text
in front of it and that symbol (`readAll_append_symbol`). The reader reaches the end of that text
first in both cases, so its error is an error of either one.

This holds for any question, also for one that is no calculation or breaks off inside a number.
-/

set_option autoImplicit false

namespace AnswerDesk

open Text (isBlank)
open Token (Kind readOnto readAll tokenize)

namespace Token

/-! ### Behind a text -/

/-- Nothing but blanks comes before the end mark. -/
theorem readOnto_of_blanks {w : List Char} (hw : ∀ c ∈ w, isBlank c = true) (pos : Nat)
    (out : List Token) :
    readOnto pos out w = .ok (out.reverse ++ [⟨.finish, pos + w.length⟩]) := by
  have hend := readOnto_blanks hw pos out []
  rw [List.append_nil] at hend
  rw [hend, readOnto.eq_def]
  simp only [List.reverse_cons]

/-- A symbol is read at once. -/
theorem readOnto_symbol {c : Char} {kind : Kind} (hc : Kind.ofChar? c = some kind) (pos : Nat)
    (out : List Token) (cs : List Char) :
    readOnto pos out (c :: cs) = readOnto (pos + 1) (⟨kind, pos⟩ :: out) cs := by
  rw [readOnto.eq_def]
  simp only [isBlank_of_ofChar? hc, hc, Bool.false_eq_true, if_false]

/-- Blanks at the end of a text only move the end mark. -/
theorem readAll_append_blanks {w : List Char} (hw : ∀ c ∈ w, isBlank c = true)
    (cs : List Char) :
    readAll (cs ++ w) = (readAll cs).map fun tokens =>
      tokens.dropLast ++ [⟨.finish, (cs ++ w).length⟩] := by
  have hparted : Parted cs w := by
    simpa using Parted.append_blanks (parted_of_head (a := cs) (b := []) nofun) hw
  rw [readAll, readOnto_append hparted, readAll]
  cases readOnto 0 [] cs with
  | error err => rfl
  | ok tokens =>
      simp only [Except.bind, Except.map]
      rw [readOnto_of_blanks hw, List.reverse_reverse, Nat.zero_add, List.length_append]

/-- A symbol that follows a text, with blanks around it, is one more token. -/
theorem readAll_append_symbol {c : Char} {kind : Kind} (hc : Kind.ofChar? c = some kind)
    {before after : List Char} (hbefore : ∀ x ∈ before, isBlank x = true)
    (hafter : ∀ x ∈ after, isBlank x = true) (cs : List Char) :
    readAll (cs ++ before ++ c :: after) = (readAll cs).map fun tokens =>
      tokens.dropLast ++ [⟨kind, (cs ++ before).length⟩,
        ⟨.finish, (cs ++ before ++ c :: after).length⟩] := by
  have hsymbol : Parted cs (c :: after) := parted_of_head fun d hd => by
    obtain rfl : c = d := by simpa using hd
    exact isNumeralChar_of_ofChar? hc
  rw [List.append_assoc, readAll, readOnto_append (hsymbol.append_blanks hbefore), readAll]
  cases readOnto 0 [] cs with
  | error err => rfl
  | ok tokens =>
      simp only [Except.bind, Except.map]
      rw [readOnto_blanks hbefore, readOnto_symbol hc, readOnto_of_blanks hafter]
      simp [Nat.add_assoc, Nat.add_comm 1]

end Token

namespace Window

/-! ### What a key does to a question -/

/-- The kind of the token that the key stands for. A digit and a point only make part of one. -/
def Key.kind? : Key → Option Kind
  | .digit _ => none
  | .point => none
  | .op o => some (.operator o)
  | .opening => some .opening
  | .closing => some .closing

/-- The key writes its token as a calculation spells it. -/
theorem Key.ofChar?_char {k : Key} {kind : Kind} (hk : k.kind? = some kind) :
    Kind.ofChar? k.char = some kind := by
  cases k with
  | digit d => cases hk
  | point => cases hk
  | op o =>
      cases hk
      exact Token.ofChar?_symbol o
  | opening =>
      cases hk
      rfl
  | closing =>
      cases hk
      rfl

/-- Only blanks are taken away with the spaces at the end. -/
theorem exists_eq_dropFinalSpaces_append (cs : List Char) :
    ∃ spaces, cs = dropFinalSpaces cs ++ spaces ∧ ∀ c ∈ spaces, isBlank c = true := by
  refine ⟨cs.rtakeWhile (· == ' '), List.rdropWhile_append_rtakeWhile.symm, fun c hc => ?_⟩
  have hspace := List.mem_rtakeWhile_imp hc
  rw [eq_of_beq hspace]
  decide

/-- The key of an opening parenthesis takes nothing away. -/
theorem exists_press_opening_eq (question : List Char) :
    ∃ before, Key.opening.press question = question ++ before ++ [Key.opening.char] ∧
      ∀ c ∈ before, c = ' ' := by
  simp only [Key.press]
  split
  · split
    · exact ⟨[' '], by simp, by simp⟩
    · exact ⟨[], by simp, nofun⟩
  · exact ⟨[], by simp, nofun⟩

/-- **The key of a symbol takes away blanks at the end at most**, and puts its character behind
the rest, with blanks around it at most. -/
theorem Key.exists_press_eq {k : Key} {kind : Kind} (hk : k.kind? = some kind)
    (question : List Char) :
    ∃ kept spaces before after, question = kept ++ spaces ∧
      k.press question = kept ++ before ++ k.char :: after ∧
      (∀ c ∈ spaces, isBlank c = true) ∧ (∀ c ∈ before, isBlank c = true) ∧
      ∀ c ∈ after, isBlank c = true := by
  have hspace : ∀ c ∈ [' '], isBlank c = true := List.all_eq_true.mp (by decide)
  obtain ⟨spaces, hquestion, hspaces⟩ := exists_eq_dropFinalSpaces_append question
  cases k with
  | digit d => cases hk
  | point => cases hk
  | op o =>
      -- A space comes before the operator unless it is the first character.
      by_cases hempty : (dropFinalSpaces question).isEmpty = true
      · refine ⟨dropFinalSpaces question, spaces, [], [' '], hquestion, ?_, hspaces, nofun, hspace⟩
        simp [press, List.isEmpty_iff.mp hempty]
      · refine ⟨dropFinalSpaces question, spaces, [' '], [' '], hquestion, ?_, hspaces, hspace,
          hspace⟩
        simp [press, hempty]
  | opening =>
      obtain ⟨before, hpress, hbefore⟩ := exists_press_opening_eq question
      refine ⟨question, [], before, [], by simp, hpress, nofun, fun c hc => ?_, nofun⟩
      rw [hbefore c hc]
      decide
  | closing =>
      exact ⟨dropFinalSpaces question, spaces, [], [], hquestion, by simp [press], hspaces, nofun,
        nofun⟩

/-- **The key of a symbol writes one token and leaves the others alone.** If the question can be
read, then it can be read after a click on the key of an operator or of a parenthesis. Its
tokens are still there, the numbers and positions too, and behind them comes the token of the
key, and then the end mark. If the question cannot be read, the error stays the same, and so
does its position. -/
theorem symbol_key_appends_one_token (desk : Desk) (w : Window) {k : Key} {kind : Kind}
    (hk : k.kind? = some kind) :
    let input := (w.step desk (.click (.key k))).1.input
    (∀ tokens, tokenize w.input = .ok tokens → ∃ ts pos,
      tokens = ts ++ [⟨.finish, w.input.length⟩] ∧ input.toList[pos]? = some k.char ∧
      tokenize input = .ok (ts ++ [⟨kind, pos⟩, ⟨.finish, input.length⟩])) ∧
    ∀ err, tokenize w.input = .error err → tokenize input = .error err := by
  intro input
  obtain ⟨kept, spaces, before, after, hquestion, hpress, hspaces, hbefore, hafter⟩ :=
    Key.exists_press_eq hk w.input.toList
  have hinput : input.toList = kept ++ before ++ k.char :: after := by
    rw [← hpress]
    exact String.toList_ofList
  -- Both texts are read as what they have in common, and then differently.
  have hold := Token.readAll_append_blanks hspaces kept
  have hnew := Token.readAll_append_symbol (Key.ofChar?_char hk) hbefore hafter kept
  rw [← hquestion] at hold
  rw [← hinput] at hnew
  rw [tokenize, tokenize, hold, hnew]
  cases readAll kept with
  | error err => exact ⟨nofun, fun err' h => h⟩
  | ok tokens' =>
      refine ⟨?_, nofun⟩
      rintro tokens ⟨⟩
      refine ⟨tokens'.dropLast, (kept ++ before).length, ?_, ?_, ?_⟩
      · rw [String.length_toList]
      · rw [hinput]
        simp
      · rw [String.length_toList]
        rfl

/-- The parenthesis comes behind the number in `1.50 `. The malformed number in `+ 1.5. ` is still
found where it was when the sign for a product has been written behind it. -/
theorem parenthesis_appended_and_error_kept :
    let desk : Desk := ⟨⟨fun _ => none, {}⟩, []⟩
    let press (question : String) (k : Key) : String :=
      (({ input := question } : Window).step desk (.click (.key k))).1.input
    press "1.50 " .opening = "1.50  (" ∧
    (∃ pos, "1.50  (".toList[pos]? = some '(' ∧
      tokenize "1.50  (" = .ok [⟨.number (3 / 2), 0⟩, ⟨.opening, pos⟩, ⟨.finish, 7⟩]) ∧
    press "+ 1.5. " (.op .mul) = "+ 1.5. * " ∧
    tokenize "+ 1.5. * " = .error (.malformedNumber "1.5." 2) := by
  intro desk press
  have hpress : press "1.50 " .opening = "1.50  (" := by decide +kernel
  have hpress' : press "+ 1.5. " (.op .mul) = "+ 1.5. * " := by decide +kernel
  have hnumber : tokenize "1.50 " = .ok [⟨.number (3 / 2), 0⟩, ⟨.finish, 5⟩] := by decide +kernel
  have herror : tokenize "+ 1.5. " = .error (.malformedNumber "1.5." 2) := by decide +kernel
  obtain ⟨ts, pos, hts, hpos, hread⟩ :=
    (symbol_key_appends_one_token desk { input := "1.50 " } (k := .opening) rfl).1 _ hnumber
  have hfails :=
    (symbol_key_appends_one_token desk { input := "+ 1.5. " } (k := .op .mul) rfl).2 _ herror
  obtain rfl : ts = [⟨.number (3 / 2), 0⟩] := (List.append_left_injective _ hts).symm
  change (press "1.50 " .opening).toList[pos]? = _ at hpos
  change tokenize (press "1.50 " .opening) = .ok (_ ++ [_, ⟨_, (press _ _).length⟩]) at hread
  change tokenize (press "+ 1.5. " (.op .mul)) = _ at hfails
  rw [hpress] at hpos hread
  rw [hpress'] at hfails
  exact ⟨hpress, ⟨pos, hpos, hread⟩, hpress', hfails⟩

end Window

end AnswerDesk
