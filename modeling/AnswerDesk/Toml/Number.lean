import AnswerDesk.Decimal.Shortest
import AnswerDesk.Text.Hex
import AnswerDesk.Toml.Layout

/-!
# `AnswerDesk.Toml.Number`: integers and floats

A number is read as far as its characters fit, whatever follows them. So the zero that a
decimal integer may start with is a number by itself. Digits may stand in groups that
single underscores join.

Integers have 64 bits with a sign. A positive float that would round to infinity is a
fault, while a negative one is not.
-/

set_option autoImplicit false

namespace AnswerDesk.Toml.Number

open Text (hexDigit?)

/-- A number as it is written, and what follows it. -/
abbrev Cut := List Char × List Char

/-- A sign, if there is one, and what follows. -/
def signed : List Char → Cut
  | '-' :: s => (['-'], s)
  | '+' :: s => (['+'], s)
  | s => ([], s)

/-- What follows the first underscore in a run of digits that has no digit behind it. -/
def loneUnderscore? (isDigit : Char → Bool) : List Char → Option (List Char)
  | [] => none
  | c :: rest =>
    if isDigit c then loneUnderscore? isDigit rest
    else if c = '_' then
      if rest.head?.any isDigit then loneUnderscore? isDigit rest else some rest
    else none

/-- Digits in groups. In a report on them, `expected` are other names for a digit. -/
def digits (isDigit : Char → Bool) (part : Part) (expected : List String) (s : List Char) :
    Except Fault Cut :=
  if s.head?.any isDigit then
    match loneUnderscore? isDigit s with
    | some rest => throw { rest, part, expected := "digit" :: expected }
    | none =>
      let isMember := fun c => isDigit c || c == '_'
      return (s.takeWhile isMember, s.dropWhile isMember)
  else
    throw { rest := s, part, expected }

/-- A decimal integer, if there is one in front. -/
def decimal? (s : List Char) : Except Fault (Option Cut) := do
  let (sign, s) := signed s
  match s with
  | '0' :: rest => return some (sign ++ ['0'], rest)
  | c :: _ =>
    if c.isDigit then
      let (word, rest) ← digits Char.isDigit .integer [] s
      return some (sign ++ word, rest)
    else
      return none
  | [] => return none

/-- The value of digits in a base of at most sixteen. -/
def valueIn (base : Nat) (word : List Char) : Nat :=
  (word.filterMap hexDigit?).foldl (fun n d => base * n + d) 0

/-- A number that fits 64 bits with a sign. The fault is found at `place`. -/
def int64 (place : List Char) (n : Int) : Except Fault Int :=
  if n < -0x8000000000000000 then throw { rest := place, problem := some .tooSmall }
  else if 0x8000000000000000 ≤ n then throw { rest := place, problem := some .tooLarge }
  else return n

/-- An integer in a base, read behind the mark of the base. -/
def inBase (base : Nat) (part : Part) (place s : List Char) :
    Except Fault (Int × Cut) := do
  let (word, rest) ← digits (fun c => (hexDigit? c).any (· < base)) part [] s
  return (← int64 place (valueIn base word), (place.take 2 ++ word, rest))

/-- The integer in front, as a value and as it is written. -/
def integer (s : List Char) : Except Fault (Int × Cut) := do
  match s with
  | '0' :: 'x' :: r => inBase 16 .hexadecimal s r
  | '0' :: 'o' :: r => inBase 8 .octal s r
  | '0' :: 'b' :: r => inBase 2 .binary s r
  | _ =>
    match ← decimal? s with
    | none => throw { rest := (signed s).2, part := some .integer, begun := false }
    | some (word, rest) =>
      let n : Int := valueIn 10 word
      return (← int64 s (if word.head? = some '-' then -n else n), (word, rest))

/-- What a float means that has no word for its value: digits, and the power of ten that
they are multiplied by. -/
structure Digits where
  digits : List Char
  exponent : Int

/-- What is written with these digits, with this fraction behind a point, and with this
exponent behind its mark. -/
def Digits.ofParts (whole fraction exponent : List Char) : Digits :=
  let fraction := fraction.filter Char.isDigit
  let n : Int := valueIn 10 (exponent.filter Char.isDigit)
  let n := if exponent.contains '-' then -n else n
  ⟨whole.filter Char.isDigit ++ fraction, n - fraction.length⟩

/-- The least number that rounds to infinity as a float of 64 bits. -/
def infinityThreshold : Nat := Nat.pow 2 1024 - Nat.pow 2 970

/-- The float rounds to infinity. The bounds on the exponent only keep the powers of ten
small. -/
def Digits.roundsToInfinity (d : Digits) : Bool :=
  let m := valueIn 10 d.digits
  match d.exponent with
  | .ofNat e => m ≠ 0 && (400 ≤ e || infinityThreshold ≤ m * Nat.pow 10 e)
  | .negSucc e => e + 1 < d.digits.length && infinityThreshold * Nat.pow 10 (e + 1) ≤ m

/-- The float rounds to zero, which is less than half of the least float away. -/
def Digits.roundsToZero (d : Digits) : Bool :=
  let m := valueIn 10 d.digits
  let e := (-d.exponent).toNat
  m = 0 || (d.digits.length + 400 ≤ e || m * Nat.pow 2 1075 ≤ Nat.pow 10 e)

/-- The fraction of a float with its point, if there is one in front. -/
def fraction (s : List Char) : Except Fault Cut := do
  match s with
  | '.' :: r =>
    let (word, rest) ← digits Char.isDigit .float ["digit"] r
    return ('.' :: word, rest)
  | s => return ([], s)

/-- The exponent of a float with its mark, if there is one in front. -/
def exponent (s : List Char) : Except Fault Cut := do
  match s with
  | c :: r =>
    if c = 'e' ∨ c = 'E' then
      let (sign, r) := signed r
      let (word, rest) ← digits Char.isDigit .float [] r
      return (c :: sign ++ word, rest)
    else
      return ([], s)
  | [] => return ([], s)

/-- One of the words for infinity and for what is not a number, with a sign if it has
one. -/
def special? (s : List Char) : Option Cut :=
  let (sign, r) := signed s
  match r with
  | 'i' :: 'n' :: 'f' :: rest => some (sign ++ ['i', 'n', 'f'], rest)
  | 'n' :: 'a' :: 'n' :: rest => some (sign ++ ['n', 'a', 'n'], rest)
  | _ => none

/-- The float in front, if there is one. It has a fraction or an exponent, or it is a word. -/
def float? (s : List Char) : Except Fault (Option Cut) := do
  match ← decimal? s with
  | none => return special? s
  | some (whole, rest) =>
    let (fraction, rest) ← fraction rest
    let (exponent, rest) ← exponent rest
    if fraction.isEmpty ∧ exponent.isEmpty then return none
    let meaning := Digits.ofParts whole fraction exponent
    if whole.head? ≠ some '-' ∧ meaning.roundsToInfinity then
      throw { rest := s, part := some .float }
    return some (whole ++ fraction ++ exponent, rest)

/-- A float with the fewest digits that name it, and with a point. -/
def floatText (word : List Char) : String :=
  let (sign, word) := signed word
  let sign := sign.filter (· = '-')
  let isMark := fun c => c == 'e' || c == 'E'
  let mantissa := word.takeWhile (!isMark ·)
  let meaning := Digits.ofParts (mantissa.takeWhile (· ≠ '.')) (mantissa.dropWhile (· ≠ '.'))
    (word.dropWhile (!isMark ·))
  let text :=
    if word = ['i', 'n', 'f'] ∨ meaning.roundsToInfinity then sign ++ ['i', 'n', 'f']
    else if word = ['n', 'a', 'n'] then ['N', 'a', 'N']
    else if meaning.roundsToZero then sign ++ ['0', '.', '0']
    else
      let nearest := Decimal.Binary.nearest ⟨valueIn 10 meaning.digits, meaning.exponent⟩
      sign ++ nearest.shortest.positional
  String.ofList text

end AnswerDesk.Toml.Number
