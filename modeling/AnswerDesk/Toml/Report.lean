import AnswerDesk.Toml.Fault

/-!
# `AnswerDesk.Toml.Report`: faults as they are reported

A report names the line and the column of a fault, shows the line with marks below the
place, and says what is wrong.

Columns count characters, and marks stand for bytes. A column at a character of several
bytes counts the bytes before it too. A fault at the end of a document is reported behind
its last character, on the line that this character belongs to, even if it ends the line.
-/

set_option autoImplicit false

namespace AnswerDesk.Toml

/-- The number of bytes of a text. -/
def byteCount (s : List Char) : Nat :=
  (s.map Char.utf8Size).foldr (· + ·) 0

/-- A place in a document. Lines and columns count from zero. -/
structure Position where
  line : Nat
  column : Nat
  deriving Repr, DecidableEq

/-- The position behind `before` and in front of `rest`. -/
def Position.between (before rest : List Char) : Position :=
  let known := if rest.isEmpty then before.dropLast else before
  let onLine := (known.reverse.takeWhile (· ≠ '\n')).reverse
  let column := match rest with
    | [] => onLine.length + (before.length - known.length)
    | c :: _ => if c.utf8Size = 1 then onLine.length else byteCount onLine
  ⟨known.count '\n', column⟩

namespace Fault

/-- The lines of a report on a fault, each with its end. -/
def report (f : Fault) (document : List Char) : String :=
  let before := document.take (document.length - f.rest.length)
  let ⟨line, column⟩ := Position.between before f.rest
  let text := (document.splitOn '\n').getD line []
  let number := toString (line + 1)
  let marks := min (byteCount (f.rest.take (f.rest.length - f.stop.length))) (byteCount text)
  let margin := "".pushn ' ' (number.length + 1)
  s!"TOML parse error at line {number}, column {column + 1}\n" ++
    margin ++ "|\n" ++
    number ++ " | " ++ String.ofList text ++ "\n" ++
    margin ++ "|" ++ "".pushn ' ' (column + 1) ++ "".pushn '^' (max 1 marks) ++ "\n" ++
    f.message ++ "\n"

end Fault

end AnswerDesk.Toml
