import AnswerDesk.Pattern.Build
import AnswerDesk.Text.Utf8

/-!
# `AnswerDesk.Pattern.Start`: what the stretches of a pattern start with

A stretch that a pattern describes can only lie where a text has its first bytes. So a
pattern has some `Starts`, in the order in which it prefers them, and a start is whole
if the stretch ends behind it. What an anchor asks for is left out of account.

There is a limit to how many starts are told apart. A set of many characters has none
that are known. Starts are cut off behind `mostBytes` bytes, and what follows one
another is looked at only as long as some start is whole. If there would be more than
`mostStarts` of them, they are cut off earlier or not known at all.
-/

set_option autoImplicit false

namespace AnswerDesk

open Text

/-- The first bytes of a stretch. -/
structure Start where
  bytes : List Nat
  /-- The stretch has no bytes behind these. -/
  whole : Bool
  deriving Repr, DecidableEq

/-- The starts that a stretch may have, the preferred ones first. They are missing if a
stretch may start with anything. -/
abbrev Starts := Option (List Start)

namespace Start

/-- The start of the empty stretch. -/
def empty : Start := ⟨[], true⟩

/-- The start of a stretch that may go on behind it. -/
def opened (s : Start) : Start := { s with whole := false }

/-- No more than `n` bytes of a start. -/
def cutTo (n : Nat) (s : Start) : Start :=
  if s.bytes.length ≤ n then s else ⟨s.bytes.take n, false⟩

/-- What a stretch and another one behind it start with, if the start `s` is whole. -/
def before (s t : Start) : Start := ⟨s.bytes ++ t.bytes, t.whole⟩

/-- Of neighbours with the same bytes, one is left. It is whole if all of them are. -/
def joined : List Start → List Start
  | [] => []
  | s :: rest => match joined rest with
    | [] => [s]
    | t :: more =>
      if s.bytes = t.bytes then ⟨s.bytes, s.whole && t.whole⟩ :: more else s :: t :: more

end Start

namespace Starts

/-- The most characters of a set whose starts are known. -/
def mostChars : Nat := 10

/-- The most repetitions of a stretch that are looked at. -/
def mostTimes : Nat := 10

/-- The most bytes of a start. -/
def mostBytes : Nat := 100

/-- The most starts that are told apart. -/
def mostStarts : Nat := 250

/-- Where there are too many starts, this many bytes of each are enough. -/
def fewBytes : Nat := 4

/-- The only start is that of the empty stretch. -/
def empty : Starts := some [.empty]

/-- No start is whole, so what follows makes no difference. -/
def areOpen (s : Starts) : Bool :=
  s.all fun starts => starts.all (!·.whole)

/-- The same starts of stretches that may go on. -/
def opened (s : Starts) : Starts :=
  s.map (·.map .opened)

def ofText (bytes : List Nat) : Starts :=
  some [Start.cutTo mostBytes ⟨bytes, true⟩]

/-- Each character of a set is a start. -/
def ofSet (s : CharSet) : Starts :=
  let count := (s.intervals.map fun (first, last) => last + 1 - first).foldr (· + ·) 0
  if count ≤ mostChars then
    some <| s.intervals.flatMap fun (first, last) =>
      (List.range' first (last + 1 - first)).map fun n => ⟨Utf8.bytes n, true⟩
  else
    none

/-- The starts of a stretch and another one behind it. -/
def before (s t : Starts) : Starts :=
  if s.areOpen then s
  else s.bind fun starts =>
    match t.filter fun others => starts.length * others.length ≤ mostStarts with
    | some others =>
      let all := starts.flatMap fun s => if s.whole then others.map s.before else [s]
      some ((Start.joined all).map (.cutTo mostBytes))
    | none =>
      if starts.any (·.bytes.isEmpty) then none else some (starts.map .opened)

/-- The starts of one stretch or another one. -/
def union (s t : Starts) : Starts := do
  let starts ← s
  let others ← t
  if starts.length + others.length ≤ mostStarts then
    return Start.joined (starts ++ others)
  else
    let starts := Start.joined (starts.map (.cutTo fewBytes))
    let others := Start.joined (others.map (.cutTo fewBytes))
    if starts.length + others.length ≤ mostStarts then
      return Start.joined (starts ++ others)
    else
      none

/-- The starts of at least `least` stretches one after another, and at most `most`. -/
def repeated (s : Starts) (least : Nat) (most : Option Nat) (greedy : Bool) : Starts :=
  if least = 0 then
    let once := if most = some 1 then s else s.opened
    if greedy then once.union empty else empty.union once
  else
    let all := Nat.repeat (fun t => t.before s) (min least mostTimes) empty
    if most = some least ∧ least ≤ mostTimes then all else all.opened

end Starts

/-- The starts of what has been looked at of a pattern. -/
inductive Gathering where
  /-- Of one pattern by itself. -/
  | alone (starts : Starts)
  /-- Of parts in a row. Behind them stands a text that the starts do not count yet, with
  the latest byte first. -/
  | row (starts : Starts) (text : List Nat)
  /-- Of branches. -/
  | choice (starts : Starts)

namespace Gathering

def starts : Gathering → Starts
  | .alone s => s
  | .row s text => if text.isEmpty then s else s.before (.ofText text.reverse)
  | .choice s => s

/-- Takes one more pattern with these starts in. -/
def add (g : Gathering) (t : Starts) : Gathering :=
  match g with
  | .alone _ => .alone t
  | .row _ _ => .row (g.starts.before t) []
  | .choice s => .choice (s.union t)

/-- Takes one more character in. Certain characters in turn are one text. -/
def addChar (g : Gathering) (s : CharSet) : Gathering :=
  match g, s.single? with
  | .row starts text, some n => .row starts ((Utf8.bytes n).reverseAux text)
  | g, _ => g.add (.ofSet s)

end Gathering

namespace Pattern

open Gathering (alone row choice)

/-- Takes a pattern in. Parts of parts are parts, and branches of branches are branches. -/
def gather : Pattern → Gathering → Gathering
  | .nothing, g => g.add .empty
  | .anchor _, g => g.add .empty
  | .char s _, g => g.addChar s
  | .group p, g => g.add (p.gather (alone none)).starts
  | .seq p q, g => match g with
    | row _ _ => q.gather (p.gather g)
    | g => g.add (q.gather (p.gather (row .empty []))).starts
  | .either p q, g => match g with
    | choice _ => q.gather (p.gather g)
    | g => g.add (q.gather (p.gather (choice (some [])))).starts
  | .repeated p least most greedy, g =>
    g.add ((p.gather (alone none)).starts.repeated least most greedy)

/-- What the stretches of the pattern start with. -/
def starts (p : Pattern) : Starts :=
  (p.gather (alone none)).starts.map Start.joined

end Pattern

end AnswerDesk
