import AnswerDesk.Toml.Fault

/-!
# `AnswerDesk.Toml.Layout`: blanks, comments and ends of lines

Blanks are the space and the tab alone. A line ends with a line feed, or with a
carriage return and a line feed; a carriage return that stands alone is an error
wherever it stands. A comment holds any characters but control characters, though
tabs are allowed.

`Got` is what every reader of the TOML grammar returns, unless it finds a fault: a value,
and the rest of the text, which is shorter than the text was. The loops over a text end
for this reason.
-/

set_option autoImplicit false

namespace AnswerDesk.Toml

/-- A value read from the front of `s`, and what is left of `s`. -/
structure Got (α : Type) (s : List Char) where
  value : α
  rest : List Char
  shorter : rest.length < s.length

/-- The same value, read from the front of a text that is no shorter. -/
def Got.map {α β : Type} {r s : List Char} (got : Got α r) (f : α → β)
    (h : r.length ≤ s.length) : Got β s :=
  ⟨f got.value, got.rest, Nat.lt_of_lt_of_le got.shorter h⟩

/-- The same text read, with the value in another form. -/
def Got.mapValue {α β : Type} {s : List Char} (got : Got α s) (f : α → β) : Got β s :=
  ⟨f got.value, got.rest, got.shorter⟩

/-- What is left, however it is written, is shorter than the text was. -/
theorem Got.length_lt_of_rest {α : Type} {s t : List Char} {got : Got α s}
    (h : got.rest = t) : t.length < s.length :=
  h ▸ got.shorter

/-- What a reader returns for the text `s`. -/
abbrev Reading (α : Type) (s : List Char) := Except Fault (Got α s)

/-- The value of a reading in another form, read from the front of a text that is no
shorter. -/
def Reading.map {α β : Type} {r s : List Char} (reading : Reading α r) (f : α → β)
    (h : r.length ≤ s.length) : Reading β s :=
  (fun got => got.map f h) <$> reading

/-- The value of a reading in another form. -/
def Reading.mapValue {α β : Type} {s : List Char} (reading : Reading α s) (f : α → β) :
    Reading β s :=
  (fun got => got.mapValue f) <$> reading

/-- The same reading, with one more character in front of the text. -/
def Reading.behind {α : Type} {s : List Char} (reading : Reading α s) (c : Char) :
    Reading α (c :: s) :=
  reading.map id (Nat.le_succ s.length)

theorem length_dropWhile_le (p : Char → Bool) (s : List Char) :
    (s.dropWhile p).length ≤ s.length :=
  (List.dropWhile_sublist p).length_le

/-- What follows a character that a run stops at is shorter than the text. -/
theorem length_lt_of_dropWhile {p : Char → Bool} {s r : List Char} {c : Char}
    (h : s.dropWhile p = c :: r) : r.length < s.length := by
  have := length_dropWhile_le p s
  rw [h] at this
  exact this

def isBlank (c : Char) : Bool :=
  c == ' ' || c == '\t'

def skipBlanks (s : List Char) : List Char :=
  s.dropWhile isBlank

/-- A character that may stand in a comment, and in a string unless it ends it. -/
def isPrintable (c : Char) : Bool :=
  c == '\t' || (0x20 ≤ c.toNat && c.toNat ≠ 0x7F)

/-- The text after an end of line that stands at its front. -/
def newline? : List Char → Option (List Char)
  | '\n' :: r => some r
  | '\x0d' :: '\n' :: r => some r
  | _ => none

theorem length_lt_of_newline? {s r : List Char} (h : newline? s = some r) :
    r.length < s.length := by
  unfold newline? at h
  split at h
  · cases h
    exact Nat.lt_succ_self _
  · cases h
    exact Nat.lt_succ_of_lt (Nat.lt_succ_self _)
  · cases h

/-- Leaves out a comment that stands at the front. -/
def skipComment : List Char → List Char
  | '#' :: r => r.dropWhile isPrintable
  | s => s

theorem length_skipComment_le (s : List Char) : (skipComment s).length ≤ s.length := by
  unfold skipComment
  split
  · have := length_dropWhile_le isPrintable
    simp only [List.length_cons]
    exact Nat.le_succ_of_le (this _)
  · exact Nat.le_refl _

/-- The next line, if no more than blanks and a comment is left of this one. -/
def nextLine? (s : List Char) : Option (List Char) :=
  match skipComment (skipBlanks s) with
  | [] => some []
  | c :: r => newline? (c :: r)

theorem length_lt_of_nextLine? {s r : List Char} (hs : s ≠ [])
    (h : nextLine? s = some r) : r.length < s.length := by
  unfold nextLine? at h
  have hle : (skipComment (skipBlanks s)).length ≤ s.length :=
    Nat.le_trans (length_skipComment_le _) (length_dropWhile_le isBlank s)
  split at h
  · cases h
    exact List.length_pos_iff.2 hs
  · rename_i c t heq
    rw [heq] at hle
    exact Nat.lt_of_lt_of_le (length_lt_of_newline? h) hle

theorem length_le_of_nextLine? {s r : List Char} (h : nextLine? s = some r) :
    r.length ≤ s.length := by
  by_cases hs : s = []
  · subst hs
    cases h
    exact Nat.le_refl _
  · exact Nat.le_of_lt (length_lt_of_nextLine? hs h)

/-- Leaves out blanks, comments and ends of lines, as between the items of an array. -/
def skipLayout (s : List Char) : List Char :=
  match h : newline? (skipComment (skipBlanks s)) with
  | some r =>
    have : r.length < s.length := Nat.lt_of_lt_of_le (length_lt_of_newline? h)
      (Nat.le_trans (length_skipComment_le _) (length_dropWhile_le isBlank s))
    skipLayout r
  | none => skipBlanks s
termination_by s.length

theorem length_skipLayout_le (s : List Char) : (skipLayout s).length ≤ s.length := by
  fun_induction skipLayout s with
  | case1 s r _ _ ih => omega
  | case2 s _ => exact length_dropWhile_le isBlank s

/-- What follows a character behind blanks, comments and ends of lines is shorter than the
text. -/
theorem length_lt_of_skipLayout {s r : List Char} {c : Char} (h : skipLayout s = c :: r) :
    r.length < s.length := by
  have hle := length_skipLayout_le s
  rw [h] at hle
  exact hle

end AnswerDesk.Toml
