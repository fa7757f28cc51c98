import AnswerDesk.Pattern.Brackets
import AnswerDesk.Pattern.Room
import AnswerDesk.Text.Letters

/-!
# `AnswerDesk.Pattern.Reader`: reading a pattern

A pattern is branches between bars; a branch is pieces one after another; a piece is a
character, an escape, a point, an anchor, brackets, or a group, and may have a
repetition behind it. Groups may be open within one another, so what is read so far
(`Draft`) holds the groups that are open, the innermost first.

A pattern is refused if it breaks a rule, if it is nested too deeply (`maxHeight`), if it
is about words that are not at hand (`isAvailable`), or if there is no room for it once
its repetitions are written out (`fits`).
-/

set_option autoImplicit false

namespace AnswerDesk.Pattern

open Text (isBlank isLetter isNumber)

/-- A part of a pattern. -/
structure Piece where
  pattern : Pattern
  /-- The groups, repetitions, brackets, branches and sequences within one another. What
  is left out of the pattern counts too. -/
  height : Nat

/-- The largest height of a pattern. -/
def maxHeight : Nat := 250

namespace Piece

def anchor (a : Anchor) : Piece := ⟨.anchor a, 0⟩

/-- One character of a set, which is one of bytes if these flags are not Unicode. -/
def char (f : Flags) (s : CharSet) (height : Nat) : Piece := ⟨charIn s (!f.unicode), height⟩

def group (p : Piece) (remembered : Bool) : Piece :=
  ⟨if remembered then .group p.pattern else p.pattern, p.height + 1⟩

def repeated (p : Piece) (least : Nat) (most : Option Nat) (greedy : Bool) : Piece :=
  ⟨p.pattern.times least most greedy, p.height + 1⟩

/-- The height of the highest piece. -/
def highest (pieces : List Piece) : Nat :=
  (pieces.map (·.height)).foldl max 0

/-- Pieces one after another. Changes of flags count among them, as `none`. -/
def sequence (pieces : List (Option Piece)) : Piece :=
  let some? := pieces.filterMap id
  let height := highest some?
  ⟨inTurn (some?.map (·.pattern)), if pieces.length ≤ 1 then height else height + 1⟩

/-- One of some branches. -/
def choice (branches : List Piece) : Piece :=
  let height := highest branches
  ⟨oneOf (branches.map (·.pattern)), if branches.length ≤ 1 then height else height + 1⟩

end Piece

/-- What is read so far of a group: finished branches and the pieces of the one that is
being read, the latest first. A change of flags is a `none` among the pieces. -/
structure Branches where
  finished : List Piece := []
  pieces : List (Option Piece) := []

namespace Branches

/-- Puts a piece behind the others. -/
def add (b : Branches) (p : Option Piece) : Branches :=
  { b with pieces := p :: b.pieces }

/-- Ends a branch. -/
def bar (b : Branches) : Branches :=
  { finished := Piece.sequence b.pieces.reverse :: b.finished, pieces := [] }

/-- All branches as one piece. -/
def whole (b : Branches) : Piece :=
  Piece.choice b.bar.finished.reverse

end Branches

/-- A group that is open: what stands before it, the flags there, and whether it is
remembered. -/
structure OpenGroup where
  before : Branches
  flags : Flags
  remembered : Bool

/-- What is read so far of a pattern. -/
structure Draft where
  flags : Flags := {}
  branches : Branches := {}
  /-- The groups that are open, innermost first. -/
  around : List OpenGroup := []
  /-- The names of groups. No two groups have one name. -/
  names : List (List Char) := []

namespace Draft

def add (d : Draft) (p : Piece) : Draft :=
  { d with branches := d.branches.add (some p) }

/-- Adds a character that stands for itself, or for both of its cases. -/
def addChar? (d : Draft) (c : Char) : Option Draft :=
  if d.flags.lacksCases then none
  else some (d.add (.char d.flags (d.flags.withCases (.singleton c)) 0))

/-- What the point stands for. -/
def point? (d : Draft) : Option Draft :=
  let stops : CharSet :=
    if d.flags.pointIsAny then .empty
    else if d.flags.carriageReturn then .ofIntervals [(0x0A, 0x0A), (0x0D, 0x0D)]
    else .singleton '\n'
  if d.flags.unicode then some (d.add (.char d.flags (stops.complement CharSet.lastCodePoint) 0))
  else none

/-- What the circumflex stands for. -/
def startAnchor (f : Flags) : Anchor :=
  if !f.everyLine then .textStart
  else if f.carriageReturn then .anyLineStart else .lineStart

/-- What the dollar sign stands for. -/
def endAnchor (f : Flags) : Anchor :=
  if !f.everyLine then .textEnd
  else if f.carriageReturn then .anyLineEnd else .lineEnd

/-- Repeats the last piece. A question mark in front of the rest swaps whether that is
greedy. -/
def repeat? (d : Draft) (least : Nat) (most : Option Nat) (rest : List Char) :
    Option (Draft × List Char) :=
  let (greedy, rest) := match rest with
    | '?' :: rest => (d.flags.swapGreed, rest)
    | rest => (!d.flags.swapGreed, rest)
  match d.branches.pieces with
  | some p :: pieces =>
    let pieces := some (p.repeated least most greedy) :: pieces
    some ({ d with branches := { d.branches with pieces := pieces } }, rest)
  | _ => none

/-- A number, with blanks on both sides, and what follows. -/
def number? (f : Flags) (s : List Char) : Option (Nat × List Char) :=
  match f.run Char.isDigit (s.dropWhile isBlank) with
  | ([], _) => none
  | (digits, rest) =>
    let n := Nat.ofDigitChars 10 digits 0
    if n < 0x100000000 then some (n, f.skip (rest.dropWhile isBlank)) else none

/-- The bounds of a repetition, read behind its opening brace. -/
def bounds? (f : Flags) (s : List Char) : Option (Nat × Option Nat × List Char) := do
  let (least, s) ← number? f (f.skip s)
  match s with
  | '}' :: rest => return (least, some least, rest)
  | ',' :: rest =>
    match f.skip rest with
    | '}' :: rest => return (least, none, rest)
    | s =>
      let (most, s) ← number? f s
      match s with
      | '}' :: rest => if least ≤ most then return (least, some most, rest) else none
      | _ => none
  | _ => none

/-- The name of a group may start with the character. -/
def isNameStart (c : Char) : Bool :=
  isLetter c || c == '_'

/-- The name of a group may go on with the character. -/
def isNameChar (c : Char) : Bool :=
  isNameStart c || isNumber c || c == '.' || c == '[' || c == ']'

/-- The name of a group, read up to its closing mark. -/
def name? (s : List Char) : Option (List Char × List Char) :=
  match s.takeWhile isNameChar, s.dropWhile isNameChar with
  | c :: name, '>' :: rest => if isNameStart c then some (c :: name, rest) else none
  | _, _ => none

/-- Opens a group within the ones that are open; `flags` hold in it. -/
def openGroup (d : Draft) (flags : Flags) (remembered : Bool) : Draft :=
  { d with
    flags := flags
    branches := {}
    around := ⟨d.branches, d.flags, remembered⟩ :: d.around }

/-- Opens a group with a name. -/
def openNamed? (d : Draft) (s : List Char) : Option (Draft × List Char) := do
  let (name, rest) ← name? s
  if name ∈ d.names then none
  else return (({ d with names := name :: d.names }).openGroup d.flags true, rest)

/-- Reads what follows an opening parenthesis: the start of a group, or flags for the
rest of the group around it. There is no looking ahead or behind. -/
def group? (d : Draft) (s : List Char) : Option (Draft × List Char) :=
  match d.flags.skip s with
  | '?' :: 'P' :: '<' :: rest => d.openNamed? rest
  | '?' :: '<' :: rest => d.openNamed? rest
  | '?' :: rest => do
    match ← d.flags.read? true [] rest with
    | (flags, _, ':', rest) => return (d.openGroup flags false, rest)
    | (_, [], _, _) => none
    | (flags, _, _, rest) =>
      return ({ d with flags := flags, branches := d.branches.add none }, rest)
  | s => some (d.openGroup d.flags true, s)

/-- Closes the innermost group. -/
def close? (d : Draft) : Option Draft :=
  match d.around with
  | [] => none
  | g :: around =>
    let p := d.branches.whole.group g.remembered
    some { d with flags := g.flags, branches := g.before.add (some p), around := around }

/-- Reads what comes next, from its first character on. -/
def step? (d : Draft) (c : Char) (rest : List Char) : Option (Draft × List Char) :=
  match c with
  | '(' => d.group? rest
  | ')' => d.close?.map fun d => (d, rest)
  | '|' => some ({ d with branches := d.branches.bar }, rest)
  | '[' => do
    let (inner, rest) ← Bracket.open? d.flags rest
    let (s, height, rest) ← Brackets.read? d.flags ⟨inner, []⟩ rest.length rest
    return (d.add (.char d.flags s height), rest)
  | '?' => d.repeat? 0 (some 1) rest
  | '*' => d.repeat? 0 none rest
  | '+' => d.repeat? 1 none rest
  | '{' => do
    let (least, most, rest) ← bounds? d.flags rest
    d.repeat? least most (d.flags.skip rest)
  | '.' => d.point?.map fun d => (d, rest)
  | '^' => some (d.add (.anchor (startAnchor d.flags)), rest)
  | '$' => some (d.add (.anchor (endAnchor d.flags)), rest)
  | '\\' => do
    match ← Escape.read? d.flags rest with
    | (.char c, rest) => return (← d.addChar? c, rest)
    | (.kind s, rest) => return (d.add (.char d.flags s 0), rest)
    | (.anchor a, rest) => return (d.add (.anchor a), rest)
  | c => (d.addChar? c).map fun d => (d, rest)

/-- Reads to the end in at most `steps` steps. A step uses up a character or more, so a
text needs no more steps than it has characters. -/
def read? (d : Draft) (steps : Nat) (s : List Char) : Option Draft :=
  match d.flags.skip s, steps with
  | [], _ => some d
  | _ :: _, 0 => none
  | c :: rest, steps + 1 => do
    let (d, rest) ← d.step? c rest
    d.read? steps rest

end Draft

/-- The pattern that a text holds. -/
def read? (text : List Char) : Option Pattern := do
  let d ← ({} : Draft).read? text.length text
  if d.around.isEmpty then
    let p := d.branches.whole
    if p.height ≤ maxHeight ∧ p.pattern.isAvailable ∧ p.pattern.fits then
      return p.pattern
    else
      none
  else
    none

end AnswerDesk.Pattern
