import AnswerDesk.Toml.Layout

/-!
# `AnswerDesk.Toml.Datetime`: dates and times

A date or a time is read as far as its characters fit, as numbers are. The readers return
how many characters that is. Dates exist in the calendar, while a minute may have a 61st
second.

A value that starts with four digits and a hyphen is a date, and one that starts with an
hour and a colon is a time. From there on everything that does not fit is a fault.
-/

set_option autoImplicit false

namespace AnswerDesk.Toml.Datetime

/-- The number that the first `count` characters are digits of. -/
def number? (count : Nat) (s : List Char) : Option Nat :=
  let digits := s.take count
  if digits.length = count ∧ digits.all Char.isDigit then some (Nat.ofDigitChars 10 digits 0)
  else none

/-- A number of two digits from `low` to `high`. -/
def field (part : Part) (low high : Nat) (s : List Char) : Except Fault Nat :=
  match number? 2 s with
  | none => throw { rest := s, part }
  | some n =>
    if low ≤ n ∧ n ≤ high then return n
    else throw { rest := s, part, problem := some .outOfRange }

/-- The mark between two numbers. -/
def mark (part : Part) (c : Char) (s : List Char) : Except Fault Unit :=
  if s.head? = some c then return () else throw { rest := s, part }

/-- There is an hour with a colon in front. -/
def startsTime (s : List Char) : Bool :=
  (number? 2 s).any (· ≤ 23) && (s.drop 2).head? == some ':'

def daysInMonth (year month : Nat) : Nat :=
  if month = 2 then
    if year % 4 = 0 ∧ (year % 100 ≠ 0 ∨ year % 400 = 0) then 29 else 28
  else if month = 4 ∨ month = 6 ∨ month = 9 ∨ month = 11 then 30
  else 31

/-- The length of the time in front, which `startsTime` has seen. -/
def timeLength (part : Part) (s : List Char) : Except Fault Nat := do
  let _ ← field part 0 59 (s.drop 3)
  mark part ':' (s.drop 5)
  let _ ← field part 0 60 (s.drop 6)
  match s.drop 8 with
  | '.' :: r =>
    let fraction := r.takeWhile Char.isDigit
    return if fraction.isEmpty then 8 else 9 + fraction.length
  | _ => return 8

/-- The length of the distance from universal time, if there is one in front. -/
def offsetLength (s : List Char) : Except Fault Nat := do
  match s with
  | 'Z' :: _ => return 1
  | 'z' :: _ => return 1
  | sign :: r =>
    if sign = '+' ∨ sign = '-' then
      let _ ← field .offset 0 23 r
      mark .offset ':' (r.drop 2)
      let _ ← field .offset 0 59 (r.drop 3)
      return 6
    else
      return 0
  | [] => return 0

/-- The length of what follows a date: a time, and its offset if there is one. -/
def restLength (s : List Char) : Except Fault Nat := do
  match s with
  | separator :: r =>
    if (separator = 'T' ∨ separator = 't' ∨ separator = ' ') ∧ startsTime r then
      let time ← timeLength .datetime r
      let offset ← offsetLength (r.drop time)
      return 1 + time + offset
    else
      return 0
  | [] => return 0

/-- The length of the date or time in front, if there is one. -/
def length? (s : List Char) : Except Fault (Option Nat) := do
  match number? 4 s, s.drop 4 with
  | some year, '-' :: month =>
    let n ← field .datetime 1 12 month
    mark .datetime '-' (month.drop 2)
    let day := month.drop 3
    if daysInMonth year n < (← field .datetime 1 31 day) then
      throw { rest := day, part := some .datetime, problem := some .outOfRange }
    return some (10 + (← restLength (day.drop 2)))
  | _, _ =>
    if startsTime s then return some (← timeLength .time s) else return none

end AnswerDesk.Toml.Datetime
