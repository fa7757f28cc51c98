import AnswerDesk.Pattern

/-!
# `AnswerDesk.Pattern.Build`: patterns put together

Patterns are put together in a simple form. What follows one another is one list of
parts, without empty ones (`inTurn`). Branches within branches are branches of one
choice, branches of one character each are one set, and what all branches start with
stands before the choice (`oneOf`). A repetition that repeats nothing, or once only, is
left out (`times`), and with it what it repeats.

The simple form describes the same stretches. What it leaves out takes no room, and an
anchor that is left out need not be available.
-/

set_option autoImplicit false

namespace AnswerDesk

namespace CharSet

/-- The only code point of the set. -/
def single? (s : CharSet) : Option Nat :=
  match s.intervals with
  | [(first, last)] => if first = last then some first else none
  | _ => none

end CharSet

namespace Pattern

/-- One character of a set. Without a character, or with one only, a set of bytes is the
same as a set of characters. -/
def charIn (s : CharSet) (ofBytes : Bool) : Pattern :=
  .char s (ofBytes && s ≠ .empty && s.single?.isNone)

/-- The pattern describes the empty stretch, or none, and has no character in it. -/
def isEmptyOnly : Pattern → Bool
  | .nothing => true
  | .anchor _ => true
  | .char _ _ => false
  | .group p => p.isEmptyOnly
  | .seq p q => p.isEmptyOnly && q.isEmptyOnly
  | .either p q => p.isEmptyOnly && q.isEmptyOnly
  | .repeated p _ _ _ => p.isEmptyOnly

/-- At least `least` stretches one after another, and at most `most`. An empty stretch
need not be repeated more than once. -/
def times (p : Pattern) (least : Nat) (most : Option Nat) (greedy : Bool) : Pattern :=
  let least := if p.isEmptyOnly then min least 1 else least
  let most := if p.isEmptyOnly then some (min (most.getD 1) 1) else most
  if most = some 0 then .nothing
  else if least = 1 ∧ most = some 1 then p
  else .repeated p least most greedy

/-- What follows one another in a pattern. -/
def parts : Pattern → List Pattern
  | .nothing => []
  | .seq p q => p.parts ++ q.parts
  | p => [p]

/-- Parts one after another. -/
def ofParts : List Pattern → Pattern
  | [] => .nothing
  | [p] => p
  | p :: ps => .seq p (ofParts ps)

/-- Patterns one after another. -/
def inTurn (ps : List Pattern) : Pattern :=
  ofParts (ps.flatMap parts)

/-- What there is to choose from in a pattern. -/
def branches : Pattern → List Pattern
  | .either p q => p.branches ++ q.branches
  | p => [p]

/-- A choice from these branches. -/
def ofBranches : List Pattern → Pattern
  | [] => .nothing
  | [p] => p
  | p :: ps => .either p (ofBranches ps)

/-- The set of a pattern that stands for one character. -/
def set? : Pattern → Option CharSet
  | .char s _ => some s
  | _ => none

/-- The set that stands for some sets. It is used if they are all characters, or if none
of them is a single one. -/
def merged? (sets : List CharSet) : Option CharSet :=
  let count := (sets.filterMap CharSet.single?).length
  if count = 0 ∨ count = sets.length then some (sets.foldl CharSet.union .empty) else none

/-- The pattern is one certain character. -/
def isSingle (p : Pattern) : Bool :=
  (p.set?.bind CharSet.single?).isSome

/-- The parts of a pattern, where certain characters in turn are one fixed text. -/
def texts (p : Pattern) : List (List Pattern) :=
  p.parts.splitBy fun q r => q.isSingle && r.isSingle

/-- Something in the pattern is remembered. -/
def remembers : Pattern → Bool
  | .nothing => false
  | .anchor _ => false
  | .char _ _ => false
  | .group _ => true
  | .seq p q => p.remembers || q.remembers
  | .either p q => p.remembers || q.remembers
  | .repeated p _ _ _ => p.remembers

/-- How many members two lists of parts start with alike. What is remembered is not like
anything else. -/
def alike (ps qs : List (List Pattern)) : Nat :=
  ((ps.zip qs).takeWhile fun (p, q) => p = q && !p.any remembers).length

/-- How many members all branches start with alike, if each of them is several members in
turn. -/
def shared (branches : List (List (List Pattern))) : Nat :=
  match branches with
  | ps :: qs :: rest =>
    if branches.any (·.length ≤ 1) then 0
    else ((qs :: rest).map (alike ps)).foldl min ps.length
  | _ => 0

/-- The number of characters, anchors and the like in a pattern. -/
def size : Pattern → Nat
  | .nothing => 1
  | .anchor _ => 1
  | .char _ _ => 1
  | .group p => p.size + 1
  | .seq p q => p.size + q.size + 1
  | .either p q => p.size + q.size + 1
  | .repeated p _ _ _ => p.size + 1

/-- One of some patterns. A pattern by itself stays as it is. What is left of the branches
when they have given up a shared start is put together in the same way, at most `depth`
times. -/
def oneOfWithin (depth : Nat) (ps : List Pattern) : Pattern :=
  let all := ps.flatMap branches
  match all, (all.mapM set?).bind merged?, depth with
  | [p], _, _ => p
  | _, some s, _ => charIn s false
  | _, none, 0 => ofBranches all
  | _, none, depth + 1 =>
    let members := all.map texts
    match shared members with
    | 0 => ofBranches all
    | n =>
      let rest := members.map fun ps => ofParts (ps.drop n).flatten
      inTurn (((members.headD []).take n).flatten ++ [oneOfWithin depth rest])

/-- One of some patterns. A shared start makes what is left smaller, so there are no more
of them than the size of the patterns. -/
def oneOf (ps : List Pattern) : Pattern :=
  oneOfWithin ((ps.map size).foldr (· + ·) 0) ps

end Pattern

end AnswerDesk
