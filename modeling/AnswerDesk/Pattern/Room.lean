import AnswerDesk.Pattern.Words

/-!
# `AnswerDesk.Pattern.Room`: the room that a pattern takes

A pattern can be written out as steps over the bytes of a text, once to go forward and
once to go backward. A repetition is written out as often as its numbers say, so a
short pattern may need very many steps. A pattern is refused if the room for its steps
is larger than `maxRoom` in one of the two directions, unless it comes down to words.

Each step takes some room (`stepRoom`), and more if there are several ways out of it
(`wayRoom`) or if it looks for bytes in several intervals (`intervalRoom`). Outside
ASCII a set of characters takes a step for each place in its bytes, where places behind
which the same bytes may follow are one step going forward, and places before which the
same bytes stand are one step going backward.
-/

set_option autoImplicit false

namespace AnswerDesk

open Text

/-- The order in which the bytes of a text are looked at. -/
inductive Direction where
  | forward
  | backward
  deriving Repr, DecidableEq

namespace Room

/-- The most room that a pattern may take. -/
def maxRoom : Nat := 10 * 1024 * 1024

def stepRoom : Nat := 32

/-- The room of a way out of a step that has several. -/
def wayRoom : Nat := 4

/-- The room of an interval of bytes that a step looks for. -/
def intervalRoom : Nat := 8

/-- What the words start with. -/
def heads {α : Type} [BEq α] (words : List (List α)) : List α :=
  (words.filterMap List.head?).eraseDups

/-- What stands behind `x` in the words that start with it. -/
def behind {α : Type} [BEq α] (x : α) (words : List (List α)) : List (List α) :=
  words.filterMap fun word => match word with
    | y :: rest => if y == x then some rest else none
    | [] => none

/-- For each place in the words that is not at an end, what may follow. No word is
longer than `length`. -/
def places : Nat → List Utf8.Box → List (List Utf8.Box)
  | 0, _ => []
  | length + 1, words =>
    match heads words with
    | [] => []
    | x :: xs => words :: (x :: xs).flatMap fun x => places length (behind x words)

/-- What a word starts with, up to each of its members. -/
def beginnings : Utf8.Box → List Utf8.Box
  | [] => []
  | x :: rest => [x] :: (beginnings rest).map (x :: ·)

/-- The room of one character of a set. -/
def ofSet (d : Direction) (s : CharSet) : Nat :=
  match s.single? with
  | some n => stepRoom * (Utf8.bytes n).length
  | none =>
    let boxes := s.intervals.flatMap fun (first, last) => Utf8.boxes first last
    if boxes.all (·.length ≤ 1) then
      2 * stepRoom + intervalRoom * boxes.length
    else match d with
      | .forward =>
        let steps := (places 4 boxes).eraseDups
        let rooms := steps.map fun next => stepRoom + intervalRoom * (heads next).length
        stepRoom + rooms.foldr (· + ·) 0
      | .backward =>
        let steps := (boxes.flatMap beginnings).eraseDups
        2 * stepRoom + stepRoom * steps.length + wayRoom * boxes.length

/-- The room of the steps from one place in some words on, no longer than `length`. Words
share what they start with, but not across a word that ends at the place. -/
def ofWordsFrom : Nat → List (List Nat) → Nat
  | 0, _ => 0
  | length + 1, words =>
    if words.all List.isEmpty then 0
    else
      -- Of the words that end before any other goes on, one counts.
      let words := match words with
        | [] :: rest => [] :: rest.dropWhile List.isEmpty
        | _ => words
      let runs := words.splitOnP List.isEmpty
      let ends := runs.length - 1
      let runs := runs.filter (!·.isEmpty)
      let rooms := runs.map fun run =>
        let heads := heads run
        let more := if heads.length = 1 then 0 else intervalRoom * heads.length
        stepRoom + more + (heads.map fun x => ofWordsFrom length (behind x run)).foldr (· + ·) 0
      stepRoom + wayRoom * (runs.length + ends) + rooms.foldr (· + ·) 0

/-- The room of a choice between words. -/
def ofWords (d : Direction) (words : List (List Nat)) : Nat :=
  let words := match d with
    | .forward => words
    | .backward => words.map List.reverse
  stepRoom + ofWordsFrom ((words.map List.length).foldl max 0 + 1) words

/-- The room of a repetition of something that takes `room`, which is never empty if
`consumes` holds. -/
def ofRepeated (room : Nat) (consumes : Bool) (least : Nat) (most : Option Nat) : Nat :=
  let choice := stepRoom + 2 * wayRoom
  match most with
  | none =>
    if 0 < least then least * room + choice
    else if consumes then room + choice
    else room + 2 * choice + stepRoom
  | some most =>
    let needed := if least = 0 then stepRoom else least * room
    if most = least then needed
    else if least = 0 ∧ most = 1 then room + choice + stepRoom
    else needed + stepRoom + (most - least) * (room + choice)

end Room

namespace Pattern

open Room

/-- The length of the shortest stretch in characters. There is none if a set without
characters stands anywhere in the pattern. -/
def shortest? : Pattern → Option Nat
  | .nothing => some 0
  | .anchor _ => some 0
  | .char s _ => if s = .empty then none else some 1
  | .group p => p.shortest?
  | .seq p q => do return (← p.shortest?) + (← q.shortest?)
  | .either p q => do return min (← p.shortest?) (← q.shortest?)
  | .repeated p least _ _ => p.shortest?.map (least * ·)

/-- The room of the steps of a pattern, by itself or as one of the branches of a choice
around it. Going backward, no group is remembered. -/
def room (d : Direction) (branch : Bool) : Pattern → Nat
  | .nothing => stepRoom + way branch
  | .anchor _ => stepRoom + way branch
  | .char s _ => ofSet d s + way branch
  | .group p => p.room d false + (if d = .forward then 2 * stepRoom else 0) + way branch
  | .seq p q => p.room d false + q.room d false + way branch
  | .either p q =>
    if branch then p.room d true + q.room d true
    else match words? (.either p q) with
      | some words => ofWords d words
      | none => 2 * stepRoom + p.room d true + q.room d true
  | .repeated p least most _ =>
    ofRepeated (p.room d false) (p.shortest?.any (0 < ·)) least most + way branch
where
  way (branch : Bool) : Nat := if branch then wayRoom else 0

/-- Every stretch lies at the end of the text where the direction starts. -/
def isTied (d : Direction) : Pattern → Bool
  | .nothing => false
  | .anchor a => match d with
    | .forward => a = .textStart
    | .backward => a = .textEnd
  | .char _ _ => false
  | .group p => p.isTied d
  | .seq p q => match d with
    | .forward => p.isTied d || (p.isEmptyOnly && q.isTied d)
    | .backward => q.isTied d || (q.isEmptyOnly && p.isTied d)
  | .either p q => p.isTied d && q.isTied d
  | .repeated p least _ _ => 0 < least && p.isTied d

/-- The room of a whole pattern: its steps, a last step, and those that look for the place
to start at. The whole is remembered going forward, as a group is. -/
def wholeRoom (d : Direction) (p : Pattern) : Nat :=
  let search :=
    if p.isTied d then stepRoom else 3 * stepRoom + 2 * wayRoom + intervalRoom
  (group p).room d false + stepRoom + search

/-- There is room for the pattern. Words are looked for without any steps. -/
def fits (p : Pattern) : Bool :=
  p.isWords || (p.wholeRoom .forward ≤ maxRoom && p.wholeRoom .backward ≤ maxRoom)

end Pattern

end AnswerDesk
