import AnswerDesk.Pattern.CharSet

/-!
# `AnswerDesk.Pattern`: where a pattern occurs in a text

A pattern describes stretches of text: one character out of a set, stretches one after
another, one of two stretches, a stretch repeated. An anchor describes the empty
stretch, at places where it holds. A place lies before or behind a character, so a
text of `n` characters has `n + 1` of them.

Only whether a pattern occurs matters, and not where. So a pattern is worked out for
all places at once: `advance` takes the places where a stretch may start, as a list of
marks, and gives the places where it can end. There is no search back, and the work
grows with the product of the lengths of the pattern and the text.
-/

set_option autoImplicit false

namespace AnswerDesk

/-- A condition on a place in a text. The words it is about are made of ASCII letters,
digits and the underscore, unless it is `unicodeWord`. -/
inductive Anchor where
  | textStart
  | textEnd
  /-- At the start of the text, or behind a line feed. -/
  | lineStart
  | lineEnd
  /-- As `lineStart`, where a carriage return, and one before a line feed, ends a line
  too. -/
  | anyLineStart
  | anyLineEnd
  | wordEdge
  | noWordEdge
  | wordStart
  | wordEnd
  /-- No word goes on before the place. -/
  | afterWord
  /-- No word goes on behind the place. -/
  | beforeWord
  /-- A condition on words of Unicode. Their letters are not at hand, so it holds nowhere,
  and a pattern that has it is refused. -/
  | unicodeWord
  deriving Repr, DecidableEq

namespace Anchor

/-- There is a character, and words are made of such characters. -/
def isWord (c : Option Char) : Bool :=
  c.any fun c => c.isAlphanum || c == '_'

/-- The anchor holds between these characters, which the ends of a text lack. -/
def holds (a : Anchor) (before after : Option Char) : Bool :=
  match a with
  | .textStart => before.isNone
  | .textEnd => after.isNone
  | .lineStart => before.isNone || before == some '\n'
  | .lineEnd => after.isNone || after == some '\n'
  | .anyLineStart =>
    before.isNone || before == some '\n' || (before == some '\x0d' && after != some '\n')
  | .anyLineEnd =>
    after.isNone || after == some '\x0d' || (after == some '\n' && before != some '\x0d')
  | .wordEdge => isWord before != isWord after
  | .noWordEdge => isWord before == isWord after
  | .wordStart => !isWord before && isWord after
  | .wordEnd => isWord before && !isWord after
  | .afterWord => !isWord before
  | .beforeWord => !isWord after
  | .unicodeWord => false

/-- Whether the anchor holds, for each place of a text with this character before it. -/
def along (a : Anchor) (before : Option Char) : List Char → List Bool
  | [] => [a.holds before none]
  | c :: cs => a.holds before (some c) :: a.along (some c) cs

end Anchor

/-- A description of stretches of text. -/
inductive Pattern where
  /-- The empty stretch, at any place. -/
  | nothing
  | anchor (a : Anchor)
  /-- One character of the set, given as a set of characters or of bytes, which has no
  bearing on where it lies. -/
  | char (s : CharSet) (ofBytes : Bool)
  /-- A stretch that is remembered, which has no bearing on where it lies. -/
  | group (p : Pattern)
  | seq (p q : Pattern)
  | either (p q : Pattern)
  /-- At least `least` stretches one after another, and at most `most` if that is given.
  A greedy one prefers more of them, which has no bearing on where they lie either. -/
  | repeated (p : Pattern) (least : Nat) (most : Option Nat) (greedy : Bool)
  deriving Repr, DecidableEq

namespace Pattern

/-- A mark for each place of a text. -/
abbrev Marks := List Bool

/-- Applies `f` this many times, or until that changes nothing any more. -/
def iterate (f : Marks → Marks) : Nat → Marks → Marks
  | 0, marks => marks
  | n + 1, marks =>
    let next := f marks
    if next = marks then marks else iterate f n next

/-- The places where a stretch can end that starts at a marked place. -/
def advance (text : List Char) : Pattern → Marks → Marks
  | .nothing, marks => marks
  | .anchor a, marks => marks.zipWith (· && ·) (a.along none text)
  | .char s _, marks => false :: marks.zipWith (fun mark c => mark && s.contains c) text
  | .group p, marks => advance text p marks
  | .seq p q, marks => advance text q (advance text p marks)
  | .either p q, marks => (advance text p marks).zipWith (· || ·) (advance text q marks)
  | .repeated p least most _, marks =>
    -- One stretch more leads to a new place each time, or the places stay the same.
    let more := match most with
      | none => text.length + 1
      | some n => n - least
    let orOneMore := fun marks => marks.zipWith (· || ·) (advance text p marks)
    iterate orOneMore more (iterate (advance text p) least marks)

/-- All anchors in the pattern are about words that are at hand. -/
def isAvailable : Pattern → Bool
  | .nothing => true
  | .anchor a => a ≠ .unicodeWord
  | .char _ _ => true
  | .group p => p.isAvailable
  | .seq p q => p.isAvailable && q.isAvailable
  | .either p q => p.isAvailable && q.isAvailable
  | .repeated p _ _ _ => p.isAvailable

/-- The text holds a stretch that the pattern describes. -/
def occursIn (p : Pattern) (text : List Char) : Bool :=
  (advance text p (List.replicate (text.length + 1) true)).any id

end Pattern

end AnswerDesk
