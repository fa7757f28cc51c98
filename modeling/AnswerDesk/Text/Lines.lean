/-!
# `AnswerDesk.Text.Lines`: the lines of a text

A line ends at a line feed. A carriage return right before that line feed belongs to
the end of the line; any other carriage return belongs to the line itself. What
follows the last line feed is one more line unless it is empty.
-/

set_option autoImplicit false

namespace AnswerDesk.Text

/-- Without one carriage return at the end. -/
def dropFinalReturn (line : List Char) : List Char :=
  if line.getLast? = some '\r' then line.dropLast else line

/-- The lines of a text. -/
def lines (cs : List Char) : List (List Char) :=
  let pieces := cs.splitOn '\n'
  let ended := pieces.dropLast.map dropFinalReturn
  match pieces.getLast? with
  | none => ended
  | some [] => ended
  | some (c :: rest) => ended ++ [c :: rest]

end AnswerDesk.Text
