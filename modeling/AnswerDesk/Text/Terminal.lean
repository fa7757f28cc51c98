import AnswerDesk.Text.Utf8

/-!
# `AnswerDesk.Text.Terminal`: texts that do not steer a terminal

A terminal shows most characters and is steered by others: by single control characters,
and by sequences that start with an escape (U+001B). `onlyShown` leaves out what steers,
so that a text from a file can be reported without doing anything to the screen.

There are short sequences, such as `ESC c`; control sequences, such as `ESC [ 3 1 m`; and
strings, which go on up to a terminator, over line feeds too. What a sequence holds is
left out with it. A sequence without an end takes everything behind it along.

Blanks are shown even within a sequence, as far as it is no string. What follows such a
blank is shown as well, up to the next control character. The sequence then goes on,
unless a character outside ASCII has been shown since.
-/

set_option autoImplicit false

namespace AnswerDesk.Text.Terminal

/-- A place within a sequence. -/
inductive Sequence where
  /-- Behind the escape. -/
  | escape
  /-- Within a short sequence of more than one character. -/
  | short
  /-- Within a control sequence, `ESC [`. -/
  | control
  /-- At the start of a string for a device, `ESC P`. -/
  | device
  /-- Behind a number at the start of such a string. -/
  | deviceNumber
  /-- Behind a sign at the start of such a string. -/
  | deviceSign
  /-- Within a string. -/
  | string
  /-- Within a string that is a command to the system, `ESC ]`. -/
  | command
  deriving Repr, DecidableEq

/-- The ASCII blanks that are shown: tab, line feed, form feed, carriage return. -/
def isShownBlank (c : Char) : Bool :=
  c == '\t' || c == '\n' || c == '\x0c' || c == '\x0d'

/-- The character is shown if it stands outside sequences. All those outside ASCII are. -/
def isShown (c : Char) : Bool :=
  isShownBlank c || (0x20 ≤ c.toNat && c.toNat ≠ 0x7F)

namespace Sequence

/-- The place behind a printable ASCII character, if the sequence goes on. -/
def next? (s : Sequence) (c : Char) : Option Sequence :=
  let n := c.toNat
  match s with
  | .escape =>
    if n < 0x30 then some .short
    else match c with
      | '[' => some .control
      | ']' => some .command
      | 'P' => some .device
      | 'X' => some .string
      | '^' => some .string
      | '_' => some .string
      | _ => none
  | .short => if n < 0x30 then some .short else none
  | .control => if n < 0x40 then some .control else none
  | .device =>
    if n < 0x30 then some .deviceSign else if n < 0x40 then some .deviceNumber else some .string
  | .deviceNumber =>
    if n < 0x30 then some .deviceSign
    else if n < 0x3C then some .deviceNumber else some .string
  | .deviceSign => if n < 0x30 then some .deviceSign else some .string
  | .string => some .string
  | .command => some .command

/-- The place behind any character, if the sequence goes on. Cancel and substitute
(U+0018, U+001A) end every sequence, and an escape starts another one. A bell ends a
command, and a byte 9C any other string; in UTF-8 it can only be a part of a character. -/
def after? (s : Sequence) (c : Char) : Option Sequence :=
  if c = '\x18' ∨ c = '\x1a' then none
  else if c = '\x1b' then some .escape
  else if 0x20 ≤ c.toNat ∧ c.toNat < 0x7F then s.next? c
  else match s with
    | .command => if c = '\x07' then none else some .command
    | .string => if 0x9C ∈ Utf8.bytes c.toNat then none else some .string
    | s => some s

/-- Blanks are shown within the sequence. -/
def showsBlanks : Sequence → Bool
  | .escape => true
  | .short => true
  | .control => true
  | _ => false

end Sequence

/-- What is done with characters. -/
inductive Mode where
  /-- They stand outside sequences. -/
  | outside
  /-- They belong to a sequence. -/
  | within (s : Sequence)
  /-- They are shown although a sequence has not ended, because a blank stood in it. -/
  | interrupted (s : Sequence)
  deriving Repr, DecidableEq

namespace Mode

/-- Within a sequence, or outside. -/
def ofSequence? : Option Sequence → Mode
  | none => .outside
  | some s => .within s

/-- Whether a character is shown, and what is done with the next one. -/
def step (mode : Mode) (c : Char) : Bool × Mode :=
  match mode with
  | .outside =>
    if isShown c then (true, .outside)
    else (false, if c = '\x1b' then .within .escape else .outside)
  | .within s =>
    if s.showsBlanks && isShownBlank c then (true, .interrupted s)
    else (false, ofSequence? (s.after? c))
  | .interrupted s =>
    if isShown c then (true, if c.toNat < 0x80 then .interrupted s else .outside)
    else (false, ofSequence? (s.after? c))

end Mode

/-- The characters of a text that a terminal shows. -/
def onlyShown (cs : List Char) : List Char :=
  let (_, shown) := cs.foldl (fun (mode, shown) c =>
    let (isShown, mode) := mode.step c
    (mode, if isShown then c :: shown else shown)) (Mode.outside, [])
  shown.reverse

end AnswerDesk.Text.Terminal
