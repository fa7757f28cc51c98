import AnswerDesk.Toml.Datetime
import AnswerDesk.Toml.Number
import AnswerDesk.Toml.Value

/-!
# `AnswerDesk.Toml.Scalar`: numbers, booleans and dates

The first character tells what a value can be. What starts with a digit or a sign is a
date if it starts as one, else a float if it has a fraction or an exponent, else an
integer. Whatever cannot be one of these values is taken for a string without quotes.
-/

set_option autoImplicit false

namespace AnswerDesk.Toml.Scalar

/-- Something that would be a string if it had quotes. -/
def unquoted (s : List Char) : Fault :=
  { rest := s, part := some .string, expected := ["`\"`", "`'`"], begun := false }

/-- There is no text left. -/
def nothing : Fault := { rest := [], begun := false }

/-- A date or a number, as a value and as it is written. -/
def number (s : List Char) : Except Fault (Value × List Char) := do
  if let some count ← Datetime.length? s then
    let word := s.take count
    return (.datetime (String.ofList word), word)
  if let some (word, _) ← Number.float? s then
    return (.float (String.ofList word), word)
  let (n, word, _) ← Number.integer s
  return (.integer n, word)

/-- A value that is written in front as this word. -/
def word (value : Value) (word s : List Char) : Except Fault (Value × List Char) :=
  if word.isPrefixOf s then return (value, word) else throw (unquoted s)

/-- The value in front, and as it is written. -/
def value (s : List Char) : Except Fault (Value × List Char) :=
  match s.head? with
  | none => throw nothing
  | some c =>
    if c.isDigit ∨ c = '+' ∨ c = '-' then number s
    else match c with
      | 't' => (word (.boolean true) ['t', 'r', 'u', 'e'] s).mapError Fault.settled
      | 'f' => (word (.boolean false) ['f', 'a', 'l', 's', 'e'] s).mapError Fault.settled
      | 'i' => word (.float "inf") ['i', 'n', 'f'] s
      | 'n' => word (.float "nan") ['n', 'a', 'n'] s
      | '_' => throw
        { rest := s, part := some .integer, expected := ["leading digit"], begun := false }
      | '.' => throw
        { rest := s, part := some .float, expected := ["leading digit"], begun := false }
      | _ => throw (unquoted s)

theorem length_drop_lt (c : Char) (cs : List Char) (n : Nat) :
    ((c :: cs).drop (max 1 n)).length < (c :: cs).length := by
  rw [List.length_drop, List.length_cons]
  omega

/-- A number, a boolean or a date. -/
def read : (s : List Char) → Reading Value s
  | [] => throw nothing
  | c :: cs => do
    let (value, word) ← value (c :: cs)
    return ⟨value, (c :: cs).drop (max 1 word.length), length_drop_lt c cs word.length⟩

end AnswerDesk.Toml.Scalar
