/-!
# `AnswerDesk.Text.Quote`: texts in quotes

A text is quoted by double quotes around it, and by escapes for the characters that could
not be told apart inside: the quote, the backslash, and what cannot be seen. There are two
ways to write an escape by a number, so a way of quoting is a function that escapes one
character (`Escaping`).

Which characters can be seen is decided by a list. It has the control and format characters,
the blanks other than the space, the characters for private use and those beyond the planes
in use, and the marks that join a letter in front of them, as far as they have a block of
their own.
-/

set_option autoImplicit false

namespace AnswerDesk.Text

/-- The escape of a character, if it does not stand for itself. -/
abbrev Escaping := Char → Option (List Char)

/-- A text in quotes. -/
def quote (escape : Escaping) (text : String) : String :=
  String.ofList ('"' :: text.toList.flatMap (fun c => (escape c).getD [c]) ++ ['"'])

/-- The digits of a number to the base sixteen. -/
def hexDigits (n : Nat) : List Char := Nat.toDigits 16 n

/-- The escapes that quotations of both kinds have. -/
def commonEscape? : Escaping
  | '\t' => some ['\\', 't']
  | '\n' => some ['\\', 'n']
  | '\x0d' => some ['\\', 'r']
  | '"' => some ['\\', '"']
  | '\\' => some ['\\', '\\']
  | _ => none

/-- Escapes by four digits, and by letters for the backspace and the form feed too. -/
def fourDigitEscape? : Escaping
  | '\x08' => some ['\\', 'b']
  | '\x0c' => some ['\\', 'f']
  | c => (commonEscape? c).or <|
    if c.toNat ≤ 0x1F ∨ c.toNat = 0x7F then
      let digits := (hexDigits c.toNat).map Char.toUpper
      some ('\\' :: 'u' :: List.replicate (4 - digits.length) '0' ++ digits)
    else
      none

/-- Intervals of characters that cannot be seen by themselves. -/
def unseen : List (Nat × Nat) :=
  [(0x00, 0x1F), (0x7F, 0xA0), (0xAD, 0xAD), (0x300, 0x36F), (0x600, 0x605), (0x61C, 0x61C),
    (0x6DD, 0x6DD), (0x70F, 0x70F), (0x890, 0x891), (0x8E2, 0x8E2), (0x1680, 0x1680),
    (0x180E, 0x180E), (0x1AB0, 0x1ACE), (0x1DC0, 0x1DFF), (0x2000, 0x200F), (0x2028, 0x202F),
    (0x205F, 0x206F), (0x20D0, 0x20F0), (0x3000, 0x3000), (0xE000, 0xF8FF), (0xFDD0, 0xFDEF),
    (0xFE00, 0xFE0F), (0xFE20, 0xFE2F), (0xFEFF, 0xFEFF), (0xFFF0, 0xFFFB), (0xFFFE, 0xFFFF),
    (0x110BD, 0x110BD), (0x110CD, 0x110CD), (0x13430, 0x1343F), (0x1BCA0, 0x1BCA3),
    (0x1D173, 0x1D17A), (0x323B0, 0x10FFFF)]

/-- Escapes by as many digits as it takes, between braces. -/
def bracedEscape? : Escaping
  | '\x00' => some ['\\', '0']
  | c => (commonEscape? c).or <|
    if unseen.any fun (first, last) => first ≤ c.toNat && c.toNat ≤ last then
      some ('\\' :: 'u' :: '\x7b' :: hexDigits c.toNat ++ ['\x7d'])
    else
      none

end AnswerDesk.Text
