import AnswerDesk.Decimal.Numeral
import AnswerDesk.Text.Blank
import AnswerDesk.Token

/-!
# `AnswerDesk.Token.Reader`: the tokens of a text

Blanks are skipped. Operators and parentheses are one character long. A digit
opens a number, which extends over the longest run of digits and points, and the
whole run has to be a numeral: `1.2.3` is one malformed number, never `1.2` and
something after it. A point that follows no digit opens nothing.

Tokens come in the order of the text. The end mark comes last, at the number of
characters of the text. Reading stops at the first place that is no token.
-/

set_option autoImplicit false

namespace AnswerDesk

/-- Why a text has no tokens. -/
inductive LexicalError where
  /-- A character that starts no token. -/
  | unexpectedCharacter (c : Char) (pos : Nat)
  /-- A run of digits and points that is no numeral. -/
  | malformedNumber (run : String) (pos : Nat)
  deriving Repr, DecidableEq

def LexicalError.message : LexicalError → String
  | .unexpectedCharacter c pos => s!"caractère inattendu '{c}' en position {pos}"
  | .malformedNumber run pos => s!"nombre mal formé '{run}' en position {pos}"

namespace Token

open Decimal (isNumeralChar numeralValue?)

/-- Reads the tokens of `cs`, which starts at position `pos` of the text, behind
those in `out`, which is held in reverse. -/
def readOnto (pos : Nat) (out : List Token) (cs : List Char) :
    Except LexicalError (List Token) :=
  match cs with
  | [] => .ok (⟨.finish, pos⟩ :: out).reverse
  | c :: rest =>
    if Text.isBlank c then
      readOnto (pos + 1) out rest
    else match Kind.ofChar? c with
      | some kind => readOnto (pos + 1) (⟨kind, pos⟩ :: out) rest
      | none =>
        if c.isDigit then
          let run := c :: rest.takeWhile isNumeralChar
          match numeralValue? run with
          | some value =>
            readOnto (pos + run.length) (⟨.number value, pos⟩ :: out)
              (rest.dropWhile isNumeralChar)
          | none => .error (.malformedNumber (String.ofList run) pos)
        else
          .error (.unexpectedCharacter c pos)
termination_by cs.length
decreasing_by
  · simp
  · simp
  · have := (List.dropWhile_sublist (l := rest) isNumeralChar).length_le
    simp; omega

/-- The tokens of a text, or the first place where it has none. -/
def readAll (cs : List Char) : Except LexicalError (List Token) :=
  readOnto 0 [] cs

/-- The tokens of a string. -/
def tokenize (s : String) : Except LexicalError (List Token) :=
  readAll s.toList

end Token

end AnswerDesk
