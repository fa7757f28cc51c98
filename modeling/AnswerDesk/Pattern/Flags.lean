import AnswerDesk.Text.Blank

/-!
# `AnswerDesk.Pattern.Flags`: how a pattern is to be read

Flags stand at the start of a group, as in `(?i:a)`, or alone, as in `(?i)`, and then
hold up to the end of the group around them. What follows a hyphen is switched off.

With the flag `x` there may be layout between the parts of a pattern: blanks, and
comments from `#` to the end of the line.
-/

set_option autoImplicit false

namespace AnswerDesk.Pattern

open Text (isBlank)

/-- How what follows is to be read. -/
structure Flags where
  /-- Letters stand for both of their cases (`i`). -/
  bothCases : Bool := false
  /-- The anchors `^` and `$` hold at every line (`m`). -/
  everyLine : Bool := false
  /-- The point stands for a line feed too (`s`). -/
  pointIsAny : Bool := false
  /-- Characters are those of Unicode, and not those of ASCII (`u`). -/
  unicode : Bool := true
  /-- A carriage return ends a line too (`R`). -/
  carriageReturn : Bool := false
  /-- Layout between the parts is left out (`x`). -/
  layout : Bool := false
  /-- A repetition is greedy with a question mark behind it, and not without (`U`). -/
  swapGreed : Bool := false
  deriving Repr, DecidableEq

namespace Flags

/-- Switches the flag with this letter. -/
def set? (f : Flags) (letter : Char) (on : Bool) : Option Flags :=
  match letter with
  | 'i' => some { f with bothCases := on }
  | 'm' => some { f with everyLine := on }
  | 's' => some { f with pointIsAny := on }
  | 'u' => some { f with unicode := on }
  | 'R' => some { f with carriageReturn := on }
  | 'x' => some { f with layout := on }
  | 'U' => some { f with swapGreed := on }
  | _ => none

/-- Reads letters up to a colon or a closing parenthesis, which is returned with the
letters, the latest first. No letter stands twice, and none is missing behind the
hyphen. -/
def read? (f : Flags) (on : Bool) (letters : List Char) :
    List Char → Option (Flags × List Char × Char × List Char)
  | [] => none
  | c :: rest =>
    if c = ':' ∨ c = ')' then
      if letters.head? = some '-' then none else some (f, letters, c, rest)
    else if c ∈ letters then none
    else if c = '-' then read? f false (c :: letters) rest
    else do
      let f ← f.set? c on
      read? f on (c :: letters) rest

end Flags

/-- Without the layout in front; `inComment` says whether a comment is open. -/
def skipLayout (inComment : Bool) : List Char → List Char
  | [] => []
  | c :: cs =>
    if inComment then skipLayout (c ≠ '\n') cs
    else if isBlank c then skipLayout false cs
    else if c = '#' then skipLayout true cs
    else c :: cs

theorem length_skipLayout_le (inComment : Bool) (s : List Char) :
    (skipLayout inComment s).length ≤ s.length := by
  induction s generalizing inComment with
  | nil => exact Nat.le_refl _
  | cons c cs ih =>
    unfold skipLayout
    split
    · exact Nat.le_succ_of_le (ih _)
    · split
      · exact Nat.le_succ_of_le (ih _)
      · split
        · exact Nat.le_succ_of_le (ih _)
        · exact Nat.le_refl _

namespace Flags

/-- Without the layout in front, if there may be any. -/
def skip (f : Flags) (s : List Char) : List Char :=
  if f.layout then skipLayout false s else s

theorem length_skip_le (f : Flags) (s : List Char) : (f.skip s).length ≤ s.length := by
  unfold skip
  split
  · exact length_skipLayout_le false s
  · exact Nat.le_refl _

/-- The characters in front that satisfy `p`, without the layout behind each of them,
and what follows. -/
def run (f : Flags) (p : Char → Bool) (s : List Char) : List Char × List Char :=
  match s with
  | [] => ([], [])
  | c :: cs =>
    if p c then
      let (more, rest) := f.run p (f.skip cs)
      (c :: more, rest)
    else
      ([], c :: cs)
termination_by s.length
decreasing_by exact Nat.lt_succ_of_le (f.length_skip_le cs)

/-- The character that follows the one before `s`, layout left out. It is looked for
past one mark of a comment, but not past the comment. -/
def peek (f : Flags) (s : List Char) : Option Char :=
  if f.layout then
    let found := match s.dropWhile isBlank with
      | '#' :: comment => comment.dropWhile isBlank
      | other => other
    (found.head?).or s.head?
  else
    s.head?

end Flags

end AnswerDesk.Pattern
