import AnswerDesk.Text.Hex
import AnswerDesk.Toml.Layout

/-!
# `AnswerDesk.Toml.Quoted`: quoted strings

There are four kinds of strings: with escapes, between double quotes, or without,
between apostrophes; each on one line between single marks or over several lines
between triple marks. One reader (`Quotes.body`) serves all four.

A string over several lines may hold its mark, once or twice in a row, also right
before the closing marks. An end of line in it counts as a line feed. If it has
escapes, a backslash at the end of a line leaves out everything up to the next
character that is no blank and no end of line.
-/

set_option autoImplicit false

namespace AnswerDesk.Toml

open Text (hexValue? scalar?)

/-- The character with the code point that the first `count` characters are digits of, and
their number. -/
def codePoint (count : Nat) (part : Part) (s : List Char) : Except Fault (Char × Nat) :=
  let digits := s.take count
  match hexValue? digits with
  | none => throw { rest := s, part }
  | some n =>
    if digits.length < count then throw { rest := s, part }
    else match scalar? n with
      | none => throw { rest := s, part, problem := some .outOfRange }
      | some c => return (c, count)

/-- The characters that may follow a backslash, in the words of a report. -/
def escapes : List String :=
  ["`b`", "`f`", "`n`", "`r`", "`t`", "`u`", "`U`", "`\\`", "`\"`"]

/-- The character that an escape stands for, which has `c` behind its backslash, and the
number of characters of `r` that belong to it. -/
def escape (c : Char) (r : List Char) : Except Fault (Char × Nat) :=
  match c with
  | 'b' => return ('\x08', 0)
  | 't' => return ('\t', 0)
  | 'n' => return ('\n', 0)
  | 'f' => return ('\x0c', 0)
  | 'r' => return ('\x0d', 0)
  | '"' => return ('"', 0)
  | '\\' => return ('\\', 0)
  | 'u' => codePoint 4 .shortCode r
  | 'U' => codePoint 8 .longCode r
  | c =>
    -- The fault is found behind the first byte, which may be within the character.
    let rest := if c.utf8Size = 1 then r else c :: r
    throw { rest, part := some .escape, expected := escapes }

/-- A kind of string. -/
structure Quotes where
  mark : Char
  escapes : Bool
  severalLines : Bool

namespace Quotes

def basic : Quotes := ⟨'"', true, false⟩

def literal : Quotes := ⟨'\'', false, false⟩

def basicLines : Quotes := ⟨'"', true, true⟩

def literalLines : Quotes := ⟨'\'', false, true⟩

/-- The part of the grammar that such a string is. -/
def part (q : Quotes) : Part :=
  match q.escapes, q.severalLines with
  | true, false => .basicString
  | false, false => .literalString
  | true, true => .basicLines
  | false, true => .literalLines

/-- A character that stands for itself in such a string. -/
def isPlain (q : Quotes) (c : Char) : Bool :=
  isPrintable c && c ≠ q.mark && !(q.escapes && c == '\\')

/-- Leaves out blanks and ends of lines after a backslash, if the line ends there. -/
def continued? (s : List Char) : Option (List Char) :=
  (newline? (skipBlanks s)).map fun r => skipEnds r
where
  /-- Leaves out blanks and ends of lines. -/
  skipEnds (s : List Char) : List Char :=
    match h : newline? (skipBlanks s) with
    | some r =>
      have : r.length < s.length :=
        Nat.lt_of_lt_of_le (length_lt_of_newline? h) (length_dropWhile_le isBlank s)
      skipEnds r
    | none => skipBlanks s
  termination_by s.length

theorem length_skipEnds_le (s : List Char) : (continued?.skipEnds s).length ≤ s.length := by
  fun_induction continued?.skipEnds s with
  | case1 s r _ _ ih => omega
  | case2 s _ => exact length_dropWhile_le isBlank s

theorem length_le_of_continued? {s r : List Char} (h : continued? s = some r) :
    r.length ≤ s.length := by
  obtain ⟨t, ht, rfl⟩ := Option.map_eq_some_iff.1 h
  have := length_lt_of_newline? ht
  have : (skipBlanks s).length ≤ s.length := length_dropWhile_le isBlank s
  have := length_skipEnds_le t
  omega

/-- The content of a string over several lines goes on with this text, other than with its
mark. -/
def goesOn (q : Quotes) : List Char → Bool
  | [] => false
  | c :: r =>
    q.isPlain c || (q.escapes && c == '\\' && !r.isEmpty) || (newline? (c :: r)).isSome

/-- The content of a string, read after its opening marks up to its closing ones. -/
def body (q : Quotes) (s : List Char) : Reading (List Char) s :=
  let plain := s.takeWhile q.isPlain
  let unclosed : Fault := { rest := s.dropWhile q.isPlain, part := some q.part }
  match h : s.dropWhile q.isPlain with
  | [] => throw unclosed
  | c :: r =>
    have hr : r.length < s.length := length_lt_of_dropWhile h
    if c = q.mark then
      if q.severalLines then
        let marks := (r.takeWhile (· == q.mark)).length + 1
        have hle : (r.dropWhile (· == q.mark)).length ≤ r.length := length_dropWhile_le _ r
        if 3 ≤ marks then
          -- Two marks more may belong to the content.
          let marks := min marks 5
          return ⟨plain ++ List.replicate (marks - 3) c, r.drop (marks - 1), by
            simp only [List.length_drop]
            omega⟩
        else if q.goesOn (r.dropWhile (· == q.mark)) then
          (body q (r.dropWhile (· == q.mark))).map (plain ++ List.replicate marks c ++ ·)
            (by omega)
        else
          throw unclosed
      else
        return ⟨plain, r, hr⟩
    else if q.escapes ∧ c = '\\' then
      match hc : if q.severalLines then continued? r else none with
      | some t =>
        have ht : t.length ≤ r.length := by
          split at hc
          · exact length_le_of_continued? hc
          · cases hc
        (body q t).map (plain ++ ·) (by omega)
      | none =>
        match hd : r with
        | [] => throw unclosed
        | d :: t =>
          have ht : t.length < s.length := by simp at hr; omega
          match escape d t with
          | .error fault => throw fault
          | .ok (char, count) =>
            have hle : (t.drop count).length ≤ t.length := by simp
            (body q (t.drop count)).map (plain ++ char :: ·) (by omega)
    else if q.severalLines then
      match hn : newline? (c :: r) with
      | some t =>
        have := length_lt_of_newline? hn
        have ht : t.length < s.length := by simp at this; omega
        (body q t).map (plain ++ '\n' :: ·) (by omega)
      | none => throw unclosed
    else
      throw unclosed
termination_by s.length

/-- A string of this kind whose opening marks have been read. The first end of line
of a string over several lines does not belong to it. -/
def text (q : Quotes) (s : List Char) : Reading String s :=
  match h : if q.severalLines then newline? s else none with
  | some r => (q.body r).map String.ofList (by
      split at h
      · exact Nat.le_of_lt (length_lt_of_newline? h)
      · cases h)
  | none => (q.body s).mapValue String.ofList

end Quotes

/-- A string of any kind, from its first mark on, which is `mark`. -/
def quoted (mark : Char) (s : List Char) : Reading String (mark :: s) :=
  let (line, lines) := if mark = '"' then (Quotes.basic, Quotes.basicLines)
    else (Quotes.literal, Quotes.literalLines)
  match s with
  | c :: d :: r =>
    if c = mark ∧ d = mark then (((lines.text r).behind d).behind c).behind mark
    else (line.text (c :: d :: r)).behind mark
  | s => (line.text s).behind mark

end AnswerDesk.Toml
