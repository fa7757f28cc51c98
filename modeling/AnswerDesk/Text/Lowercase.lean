import AnswerDesk.Text.CaseTable
import AnswerDesk.Text.Interval

/-!
# `AnswerDesk.Text.Lowercase`: a text in lowercase

The full, language-independent lowercase of Unicode. Two characters make it more
than a map on characters:

* `İ` (U+0130) becomes two characters, `i` and a combining dot;
* a capital sigma becomes `ς` at the end of a word and `σ` elsewhere. It ends a
  word when the nearest character before it that is not case-ignorable is cased,
  and the nearest such character after it is not (`endsWord`).
-/

set_option autoImplicit false

namespace AnswerDesk.Text

/-- Characters such as the apostrophe and accents, which the rule for sigma skips. -/
def isCaseIgnorable (c : Char) : Bool :=
  inIntervals caseIgnorable c

/-- Letters, and a few other characters, that have a case. -/
def isCased (c : Char) : Bool :=
  inIntervals cased c

/-- The first character that is not case-ignorable is cased. -/
def meetsCased (cs : List Char) : Bool :=
  match cs.dropWhile isCaseIgnorable with
  | c :: _ => isCased c
  | [] => false

/-- A capital sigma with this text before it, nearest character first, and this text
after it is the last letter of a word. -/
def endsWord (before after : List Char) : Bool :=
  meetsCased before && !meetsCased after

/-- The lowercase of a character other than the capital sigma. -/
def lowerChar (c : Char) : List Char :=
  if c.toNat < 0x80 then [c.toLower]
  else if c.toNat = 0x0130 then ['i', '\u0307']
  else match lowerRuns.find? (·.covers c.toNat) with
    | some run => [Char.ofNat (run.lower + (c.toNat - run.first))]
    | none => [c]

/-- The lowercase of a character between these two texts. -/
def lowerBetween (before : List Char) (c : Char) (after : List Char) : List Char :=
  if c = 'Σ' then [if endsWord before after then 'ς' else 'σ'] else lowerChar c

/-- The lowercase of `rest`, put behind `out`, which is held in reverse, as is the
text before `rest`. -/
def lowerOnto (before out : List Char) : List Char → List Char
  | [] => out.reverse
  | c :: rest => lowerOnto (c :: before) ((lowerBetween before c rest).reverse ++ out) rest

/-- A text in lowercase. -/
def lowercase (cs : List Char) : List Char :=
  lowerOnto [] [] cs

end AnswerDesk.Text
