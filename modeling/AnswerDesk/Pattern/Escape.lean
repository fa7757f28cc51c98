import AnswerDesk.Pattern
import AnswerDesk.Pattern.Flags
import AnswerDesk.Text.Hex

/-!
# `AnswerDesk.Pattern.Escape`: what follows a backslash

A backslash takes its meaning from a sign, and gives some letters one: control
characters, characters by their number, kinds of characters, and anchors. All other
letters and digits are refused.

Kinds of characters (`\d`, `\s`, `\w`) and the edges of words are those of ASCII. A
pattern gets them with the flag `u` switched off. With the flag on it asks for those
of Unicode, which are not at hand. A kind is then refused at once, as properties (`\p`)
are, and an edge of a word is read as `Anchor.unicodeWord`.
-/

set_option autoImplicit false

namespace AnswerDesk.Pattern

open Text (hexDigit? hexValue? scalar?)

/-- What an escape stands for. -/
inductive Escape where
  | char (c : Char)
  | kind (s : CharSet)
  | anchor (a : Anchor)

namespace CharSet

/-- The kinds of ASCII characters that a bracketed set may name. -/
def named? (name : String) : Option CharSet :=
  match name with
  | "alnum" => some (.ofIntervals [(0x30, 0x39), (0x41, 0x5A), (0x61, 0x7A)])
  | "alpha" => some (.ofIntervals [(0x41, 0x5A), (0x61, 0x7A)])
  | "ascii" => some (.interval 0 0x7F)
  | "blank" => some (.ofIntervals [(0x09, 0x09), (0x20, 0x20)])
  | "cntrl" => some (.ofIntervals [(0, 0x1F), (0x7F, 0x7F)])
  | "digit" => some (.interval 0x30 0x39)
  | "graph" => some (.interval 0x21 0x7E)
  | "lower" => some (.interval 0x61 0x7A)
  | "print" => some (.interval 0x20 0x7E)
  | "punct" => some (.ofIntervals [(0x21, 0x2F), (0x3A, 0x40), (0x5B, 0x60), (0x7B, 0x7E)])
  | "space" => some (.ofIntervals [(0x09, 0x0D), (0x20, 0x20)])
  | "upper" => some (.interval 0x41 0x5A)
  | "word" => some (.ofIntervals [(0x30, 0x39), (0x41, 0x5A), (0x5F, 0x5F), (0x61, 0x7A)])
  | "xdigit" => some (.ofIntervals [(0x30, 0x39), (0x41, 0x46), (0x61, 0x66)])
  | _ => none

end CharSet

namespace Escape

def isHex (c : Char) : Bool :=
  (hexDigit? c).isSome

/-- Exactly `count` hexadecimal digits, without the layout behind each of them. -/
def hexDigits? (f : Flags) : Nat → List Char → Option (List Char × List Char)
  | 0, s => some ([], s)
  | count + 1, c :: s =>
    if isHex c then do
      let (more, rest) ← hexDigits? f count (f.skip s)
      return (c :: more, rest)
    else
      none
  | _ + 1, [] => none

/-- A character by its number: `count` digits, or any digits between braces. -/
def byNumber? (f : Flags) (count : Nat) (s : List Char) : Option (Char × List Char) :=
  match f.skip s with
  | '{' :: inside =>
    match f.run isHex (f.skip inside) with
    | (d :: digits, '}' :: rest) => do
      let c ← scalar? (← hexValue? (d :: digits))
      return (c, f.skip rest)
    | _ => none
  | s => do
    let (digits, rest) ← hexDigits? f count s
    let c ← scalar? (← hexValue? digits)
    -- Two digits are a byte where characters are those of ASCII.
    if count = 2 ∧ !f.unicode ∧ 0x7F < c.toNat then none else some (c, rest)

/-- The edge of a word that is meant by a name. -/
def edge? (name : List Char) : Option Anchor :=
  match String.ofList name with
  | "start" => some .wordStart
  | "end" => some .wordEnd
  | "start-half" => some .afterWord
  | "end-half" => some .beforeWord
  | _ => none

/-- The edge of a word, with a name between braces or without one. Braces that start
with no letter do not belong to it. -/
def wordEdge? (f : Flags) (s : List Char) : Option (Anchor × List Char) :=
  match s with
  | '{' :: inside =>
    match f.run (fun c => c.isAlpha || c == '-') (f.skip inside) with
    | (_, []) => none
    | ([], _) => some (.wordEdge, s)
    | (name, '}' :: rest) => (edge? name).map fun a => (a, rest)
    | _ => none
  | s => some (.wordEdge, s)

/-- A letter that stands for a control character. -/
def control? (c : Char) : Option Char :=
  match c with
  | 'a' => some '\x07'
  | 'f' => some '\x0c'
  | 't' => some '\t'
  | 'n' => some '\n'
  | 'r' => some '\x0d'
  | 'v' => some '\x0b'
  | _ => none

/-- A letter that stands for a kind of ASCII characters. -/
def kind? (c : Char) : Option CharSet :=
  match c with
  | 'd' => CharSet.named? "digit"
  | 's' => CharSet.named? "space"
  | 'w' => CharSet.named? "word"
  | _ => none

/-- A letter that stands for an anchor about words, other than `b`. -/
def wordAnchor? (c : Char) : Option Anchor :=
  match c with
  | 'B' => some .noWordEdge
  | '<' => some .wordStart
  | '>' => some .wordEnd
  | _ => none

/-- The anchor that is meant by one about the words of ASCII. -/
def aboutWords (f : Flags) (a : Anchor) : Escape :=
  .anchor (if f.unicode then .unicodeWord else a)

/-- Reads an escape behind its backslash. -/
def read? (f : Flags) (s : List Char) : Option (Escape × List Char) :=
  match s with
  | [] => none
  | 'x' :: rest => (byNumber? f 2 rest).map fun (c, rest) => (.char c, rest)
  | 'u' :: rest => (byNumber? f 4 rest).map fun (c, rest) => (.char c, rest)
  | 'U' :: rest => (byNumber? f 8 rest).map fun (c, rest) => (.char c, rest)
  | 'A' :: rest => some (.anchor .textStart, rest)
  | 'z' :: rest => some (.anchor .textEnd, rest)
  | 'b' :: rest => (wordEdge? f rest).map fun (a, rest) => (aboutWords f a, rest)
  | c :: rest =>
    match control? c, kind? c, wordAnchor? c with
    | some c, _, _ => some (.char c, rest)
    | _, some s, _ => if f.unicode then none else some (.kind s, rest)
    | _, _, some a => some (aboutWords f a, rest)
    | none, none, none =>
      if c.toNat < 0x80 ∧ !c.isAlphanum then some (.char c, rest) else none

end Escape

end AnswerDesk.Pattern
