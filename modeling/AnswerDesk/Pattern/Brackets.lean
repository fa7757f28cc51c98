import AnswerDesk.Pattern.Escape

/-!
# `AnswerDesk.Pattern.Brackets`: sets of characters between brackets

Between brackets stand characters, ranges of them, kinds of characters, and further
brackets; a circumflex in front stands for all other characters. Operators between
such unions, `&&`, `--` and `~~`, join to the left and none before another.

A hyphen is itself at either end. A closing bracket in first place is itself too, so no
brackets are empty, though a side of an operator may be.

Brackets may be open within one another, so those that are open are kept in a list
(`Brackets`), the innermost first. The height of what is read counts brackets, unions
and operators within one another; a pattern as a whole has a bound on it.
-/

set_option autoImplicit false

namespace AnswerDesk.Pattern

/-- An operator between two sets. -/
inductive SetOp where
  | inter
  | diff
  | symmDiff

def SetOp.apply : SetOp → CharSet → CharSet → CharSet
  | .inter, s, t => s.inter t
  | .diff, s, t => s.diff t
  | .symmDiff, s, t => s.symmDiff t

namespace Flags

/-- Letters are to stand for both of their cases, but those of Unicode, which are not at
hand. No character can be read then. -/
def lacksCases (f : Flags) : Bool :=
  f.bothCases && f.unicode

/-- The set with the other case of its letters, if the flags ask for it. -/
def withCases (f : Flags) (s : CharSet) : CharSet :=
  if f.bothCases then s.withBothCases else s

/-- The set, or all other characters. Where characters are those of ASCII, so is the
result. -/
def orOthers? (f : Flags) (others : Bool) (s : CharSet) : Option CharSet :=
  let s := if others then s.complement (if f.unicode then CharSet.lastCodePoint else 0xFF)
    else s
  if f.unicode ∨ s.endsBy 0x7F then some s else none

/-- A character that may stand between brackets. -/
def mayHold (f : Flags) (c : Char) : Bool :=
  !f.lacksCases && (f.unicode || c.toNat < 0x80)

end Flags

/-- The union of some items. -/
structure Union where
  set : CharSet := .empty
  items : Nat := 0
  /-- The height of the highest item. -/
  height : Nat := 0

namespace Union

def add (u : Union) (s : CharSet) (height : Nat) : Union :=
  ⟨u.set.union s, u.items + 1, max u.height height⟩

/-- Two items or more are one level higher than each of them. -/
def total (u : Union) : Nat :=
  if u.items ≤ 1 then u.height else u.height + 1

end Union

/-- What is known of open brackets. -/
structure Bracket where
  /-- They stand for all other characters. -/
  others : Bool
  /-- What stands before an operator, with its height. -/
  left : Option (SetOp × CharSet × Nat)
  /-- What stands behind the last operator. -/
  union : Union

/-- Brackets that are open, innermost first: the innermost, and those around it. -/
structure Brackets where
  inner : Bracket
  around : List Bracket

/-- What a step of reading leads to. -/
inductive Brackets.Step where
  | closed (s : CharSet) (height : Nat)
  | opened (b : Brackets)

namespace Bracket

/-- The set so far and its height. -/
def operand (f : Flags) (b : Bracket) : CharSet × Nat :=
  match b.left with
  | none => (b.union.set, b.union.total)
  | some (op, s, height) =>
    (op.apply (f.withCases s) (f.withCases b.union.set), max height b.union.total + 1)

/-- The set, now that the brackets are closed. -/
def close? (f : Flags) (b : Bracket) : Option (CharSet × Nat) := do
  let (s, height) := b.operand f
  let s ← f.orOthers? b.others (f.withCases s)
  return (s, height + 1)

/-- Adds an item of height zero to the union. -/
def add (b : Bracket) (s : CharSet) (height : Nat) : Bracket :=
  { b with union := b.union.add s height }

/-- Opens brackets whose mark has been read: a circumflex, hyphens, and a closing bracket
in first place come first. -/
def open? (f : Flags) (s : List Char) : Option (Bracket × List Char) :=
  let (others, s) := match f.skip s with
    | '^' :: rest => (true, f.skip rest)
    | s => (false, s)
  let (firsts, s) := match f.run (· == '-') s with
    | ([], ']' :: rest) => ([']'], f.skip rest)
    | read => read
  if s.isEmpty ∨ !firsts.all f.mayHold then none
  else some (⟨others, none, firsts.foldl (fun u c => u.add (.singleton c) 0) {}⟩, s)

/-- A kind of characters by its name between colons, with a circumflex for all others,
read behind its opening bracket. -/
def named? (s : List Char) : Option (Bool × CharSet × List Char) :=
  match s with
  | ':' :: s =>
    let (others, s) := match s with
      | '^' :: rest => (true, rest)
      | s => (false, s)
    match s.dropWhile (· != ':') with
    | ':' :: ']' :: rest =>
      (CharSet.named? (String.ofList (s.takeWhile (· != ':')))).map fun set =>
        (others, set, rest)
    | _ => none
  | _ => none

/-- A character or an escape. -/
def item? (f : Flags) (s : List Char) : Option (Escape × List Char) :=
  match s with
  | [] => none
  | '\\' :: rest => Escape.read? f rest
  | c :: rest => some (.char c, rest)

/-- The set of an item that stands alone. -/
def alone? (f : Flags) : Escape → Option CharSet
  | .char c => if f.mayHold c then some (.singleton c) else none
  | .kind s => some s
  | .anchor _ => none

/-- A range, or an item that stands alone. -/
def range? (f : Flags) (s : List Char) : Option (CharSet × List Char) := do
  let (first, s) ← item? f s
  match f.skip s with
  | [] => none
  | '-' :: rest =>
    match f.peek rest with
    | some ']' => return (← alone? f first, '-' :: rest)
    | some '-' => return (← alone? f first, '-' :: rest)
    | _ =>
      let (last, rest) ← item? f (f.skip rest)
      match first, last with
      | .char a, .char b =>
        if a ≤ b ∧ f.mayHold a ∧ f.mayHold b then
          some (.interval a.toNat b.toNat, rest)
        else
          none
      | _, _ => none
  | rest => return (← alone? f first, rest)

end Bracket

namespace Brackets

/-- Goes on behind an operator. -/
def operator (f : Flags) (b : Brackets) (op : SetOp) : Brackets :=
  { b with inner := ⟨b.inner.others, some (op, b.inner.operand f), {}⟩ }

/-- Adds a set to the innermost brackets. -/
def add (b : Brackets) (s : CharSet) (height : Nat) : Brackets :=
  { b with inner := b.inner.add s height }

/-- Opens brackets within the innermost ones. -/
def nest? (f : Flags) (b : Brackets) (s : List Char) : Option (Brackets × List Char) :=
  (Bracket.open? f s).map fun (inner, rest) => (⟨inner, b.inner :: b.around⟩, rest)

/-- Reads what comes next. -/
def step? (f : Flags) (b : Brackets) (s : List Char) : Option (Step × List Char) :=
  match s with
  | [] => none
  | '[' :: rest =>
    match Bracket.named? rest with
    | some (others, set, rest) => do
      if f.lacksCases then none
      let set ← f.orOthers? others (f.withCases set)
      return (.opened (b.add set 0), rest)
    | none => (b.nest? f rest).map fun (b, rest) => (.opened b, rest)
  | ']' :: rest => do
    let (set, height) ← b.inner.close? f
    match b.around with
    | [] => return (.closed set height, rest)
    | next :: around => return (.opened ⟨next.add set height, around⟩, rest)
  | '&' :: '&' :: rest => some (.opened (b.operator f .inter), rest)
  | '-' :: '-' :: rest => some (.opened (b.operator f .diff), rest)
  | '~' :: '~' :: rest => some (.opened (b.operator f .symmDiff), rest)
  | s => do
    let (set, rest) ← Bracket.range? f s
    return (.opened (b.add set 0), rest)

/-- Reads up to the end of the outermost brackets, in at most `steps` steps: the set, its
height, and the rest. A step uses up a character or more, so no more steps are needed than
there are characters. -/
def read? (f : Flags) (b : Brackets) (steps : Nat) (s : List Char) :
    Option (CharSet × Nat × List Char) :=
  match steps with
  | 0 => none
  | steps + 1 => do
    match ← b.step? f (f.skip s) with
    | (.closed set height, rest) => return (set, height, rest)
    | (.opened b, rest) => b.read? f steps rest

end Brackets

end AnswerDesk.Pattern
