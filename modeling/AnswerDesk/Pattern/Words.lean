import AnswerDesk.Pattern.Start

/-!
# `AnswerDesk.Pattern.Words`: patterns that come down to words

Instead of a pattern a text can be searched for the starts of its stretches. If all of
them are whole, that is the same: the pattern comes down to a choice of words
(`isWords`).

Not all starts are looked for, but some that are found quickly (`sought`). What starts
with an earlier one need not be looked for, even if it is not whole. Long starts or many
of them are cut off, unless whole ones would become worse by that: very short, or still
too many. A byte that is rare is enough as a start, and one that is `isEverywhere` is of
no use as a start.
-/

set_option autoImplicit false

namespace AnswerDesk

open Text

namespace Start

/-- The byte is common in texts. Of longer characters it is the first byte. -/
def isCommon (byte : Nat) : Bool :=
  0xC0 ≤ byte || "\n\x0d (),-./0129:_abcdefghilmnoprstuvxy|".toList.any (·.toNat = byte)

/-- The byte is so common that looking for it alone is of no use. -/
def isEverywhere (byte : Nat) : Bool :=
  0xC0 ≤ byte || " et".toList.any (·.toNat = byte)

/-- Leaves out what starts with an earlier one. -/
def minimal (starts : List Start) : List Start :=
  starts.foldl
    (fun kept s => if kept.any (·.bytes.isPrefixOf s.bytes) then kept else kept ++ [s]) []

/-- What both lists start with. -/
def shared : List Nat → List Nat → List Nat
  | x :: xs, y :: ys => if x = y then x :: shared xs ys else []
  | _, _ => []

/-- What all starts begin with. -/
def sharedByAll : List Start → List Nat
  | [] => []
  | s :: rest => rest.foldl (fun bytes t => shared bytes t.bytes) s.bytes

/-- Cuts the starts to some bytes, and to fewer ones, as long as there are more of them
than a number that goes with each length. -/
def thinned : List (Nat × Nat) → List Start → List Start
  | [], starts => starts
  | (length, enough) :: rest, starts =>
    if starts.length ≤ enough then starts
    else thinned rest (minimal (starts.map (.cutTo length)))

/-- All starts are words. -/
def areWhole (starts : List Start) : Bool :=
  starts.all (·.whole)

/-- The start is found at nearly every place. -/
def isUseless (s : Start) : Bool :=
  match s.bytes with
  | [] => true
  | [byte] => isEverywhere byte
  | _ => false

end Start

namespace Starts

open Start

/-- The most words that are found quickly, whatever they are. -/
def fewWords : Nat := 16

/-- The most starts that are found quickly if they are not too short. -/
def fewStarts : Nat := 64

/-- The most bytes of a start that is worse than any words. -/
def shortBytes : Nat := 2

/-- To look for these starts takes more time than to look for words. -/
def areSlow (s : Starts) : Bool :=
  s.all fun starts =>
    starts.isEmpty || starts.any (·.bytes.length ≤ shortBytes) || fewStarts < starts.length

/-- The starts to look for. There are none if that is of no use. -/
def sought (s : Starts) : Starts := do
  let all ← s
  if all.any (·.bytes.isEmpty) then none
  else
    let starts := minimal all
    let first := sharedByAll starts
    if 1 < all.length ∧ first.length ≤ 3 ∧ first.head?.any (!isCommon ·) then
      return joined (starts.map (.cutTo 1))
    else
      let isQuick := areWhole starts && starts.length ≤ fewWords
      let starts :=
        if 4 < first.length ∨ (1 < first.length ∧ !isQuick) then
          joined (starts.map (.cutTo first.length))
        else
          starts
      let thin := thinned [(5, 10), (4, 10), (3, 64), (2, 64), (1, 10)] starts
      let thin := if thin.any isUseless then none else some thin
      if areWhole starts ∧ areSlow thin then return starts else thin

end Starts

namespace Pattern

/-- The bytes of a pattern that stands for a fixed text. -/
def word? : Pattern → Option (List Nat)
  | .char s _ => s.single?.map Utf8.bytes
  | .seq p q => do return (← p.word?) ++ (← q.word?)
  | _ => none

/-- The words that a pattern chooses from, if it chooses from words only. -/
def words? : Pattern → Option (List (List Nat))
  | .either p q => do return (← p.words?) ++ (← q.words?)
  | p => p.word?.map fun word => [word]

/-- There is an anchor in the pattern. -/
def hasAnchor : Pattern → Bool
  | .nothing => false
  | .anchor _ => true
  | .char _ _ => false
  | .group p => p.hasAnchor
  | .seq p q => p.hasAnchor || q.hasAnchor
  | .either p q => p.hasAnchor || q.hasAnchor
  | .repeated p _ _ _ => p.hasAnchor

/-- So many words are looked for as words, however they start. -/
def manyWords : Nat := 3000

/-- To look for the pattern is to look for words. Nothing else has to be checked or
remembered when one of them is found. -/
def isWords (p : Pattern) : Bool :=
  !p.remembers && !p.hasAnchor &&
    (p.words?.any (manyWords ≤ ·.length) ||
      p.starts.sought.any fun starts => !starts.isEmpty && Start.areWhole starts)

end Pattern

end AnswerDesk
