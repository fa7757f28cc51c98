import AnswerDesk.Journal
import AnswerDesk.Text.Lines
import AnswerDesk.Text.Terminal

/-!
# `AnswerDesk.Journal.Line`: an entry as it is written

Entries are written for a reader at a terminal or for a file with one line per entry. So
a message is written without what steers a terminal, and if it has line feeds, its
further lines stand in from the margin. `headline` is what is left of it on the line
that starts with the level and the topic of the entry.
-/

set_option autoImplicit false

namespace AnswerDesk.Journal.Entry

open Text (dropFinalReturn)
open Text.Terminal (onlyShown)

/-- The margin of the further lines of a message. -/
def margin : List Char := [' ', ' ', ' ', ' ']

/-- The message as it is written. -/
def written (entry : Entry) : List Char :=
  onlyShown (entry.message.toList.flatMap fun c => if c = '\n' then c :: margin else [c])

/-- The first line of the message as it is written. -/
def headline (entry : Entry) : String :=
  String.ofList (dropFinalReturn (entry.written.takeWhile (· != '\n')))

end AnswerDesk.Journal.Entry
