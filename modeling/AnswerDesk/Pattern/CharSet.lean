import AnswerDesk.Text.Interval

/-!
# `AnswerDesk.Pattern.CharSet`: sets of characters

A set is a list of intervals of code points, in order, with a gap between any two of
them. `insert` keeps it so. The other operations come from `insert` and from the `gaps`
between the intervals, within the code points from zero to a given last one.
-/

set_option autoImplicit false

namespace AnswerDesk

/-- Code points, as intervals with both ends included. -/
structure CharSet where
  intervals : List (Nat × Nat)
  deriving Repr, DecidableEq

namespace CharSet

/-- The last code point of all. -/
def lastCodePoint : Nat := 0x10FFFF

def empty : CharSet := ⟨[]⟩

def interval (first last : Nat) : CharSet := ⟨[(first, last)]⟩

def singleton (c : Char) : CharSet := interval c.toNat c.toNat

/-- The set holds the character. -/
def contains (s : CharSet) (c : Char) : Bool :=
  Text.inIntervals s.intervals c

/-- No code point lies behind `last`. -/
def endsBy (s : CharSet) (last : Nat) : Bool :=
  s.intervals.all fun i => i.2 ≤ last

/-- Puts an interval in its place, joined to those that it meets or touches. -/
def insertInto (first last : Nat) : List (Nat × Nat) → List (Nat × Nat)
  | [] => [(first, last)]
  | (a, b) :: rest =>
    if last + 1 < a then (first, last) :: (a, b) :: rest
    else if b + 1 < first then (a, b) :: insertInto first last rest
    else insertInto (min first a) (max last b) rest

def insert (s : CharSet) (first last : Nat) : CharSet :=
  ⟨insertInto first last s.intervals⟩

/-- The set of these intervals, given in any order. -/
def ofIntervals (intervals : List (Nat × Nat)) : CharSet :=
  intervals.foldl (fun s i => s.insert i.1 i.2) empty

def union (s t : CharSet) : CharSet :=
  t.intervals.foldl (fun s i => s.insert i.1 i.2) s

/-- The code point of the character behind the one with the code point `n`. Surrogates
are left out. -/
def next (n : Nat) : Nat :=
  if n = 0xD7FF then 0xE000 else n + 1

/-- The code point of the character before the one with the code point `n`. -/
def previous (n : Nat) : Nat :=
  if n = 0xE000 then 0xD7FF else n - 1

/-- The gaps between intervals, from `start` to `last`. If there are only surrogates
between two intervals, that gap ends before it starts. -/
def gaps (start last : Nat) : List (Nat × Nat) → List (Nat × Nat)
  | [] => if start ≤ last then [(start, last)] else []
  | (a, b) :: rest =>
    let more := gaps (next b) last rest
    if a = 0 then more else (start, previous a) :: more

/-- What is up to `last` and not in the set. A gap is taken for an interval whichever of
its ends comes first. -/
def complement (s : CharSet) (last : Nat) : CharSet :=
  ⟨(gaps 0 last s.intervals).map fun (a, b) => (min a b, max a b)⟩

def inter (s t : CharSet) : CharSet :=
  .ofIntervals <| s.intervals.flatMap fun (a, b) =>
    (t.intervals.map fun (c, d) => (max a c, min b d)).filter fun (a, b) => a ≤ b

def diff (s t : CharSet) : CharSet :=
  s.inter ⟨(gaps 0 lastCodePoint t.intervals).filter fun (a, b) => a ≤ b⟩

/-- What is in one of the sets but not in both. -/
def symmDiff (s t : CharSet) : CharSet :=
  (s.diff t).union (t.diff s)

/-- The set and the other case of its ASCII letters. -/
def withBothCases (s : CharSet) : CharSet :=
  let lower := s.inter (interval 'a'.toNat 'z'.toNat)
  let upper := s.inter (interval 'A'.toNat 'Z'.toNat)
  (s.union ⟨lower.intervals.map fun (a, b) => (a - 32, b - 32)⟩).union
    ⟨upper.intervals.map fun (a, b) => (a + 32, b + 32)⟩

end CharSet

end AnswerDesk
