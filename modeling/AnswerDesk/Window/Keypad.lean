import AnswerDesk.Op
import AnswerDesk.Text.Blank

/-!
# `AnswerDesk.Window.Keypad`: the buttons of the window

The keys of the keypad write into the question. Digits and the point are appended as
they are. The other keys also see to the spaces: an operator stands between spaces,
a closing parenthesis follows without a space, and an opening one is kept apart from
a number or a closing parenthesis before it. Only spaces are taken away here, not
other blanks.
-/

set_option autoImplicit false

namespace AnswerDesk.Window

/-- A key of the keypad. -/
inductive Key where
  | digit (d : Fin 10)
  | point
  | op (op : Op)
  | opening
  | closing
  deriving Repr, DecidableEq

/-- The character that the key writes. -/
def Key.char : Key → Char
  | .digit d => d.val.digitChar
  | .point => '.'
  | .op o => o.symbol
  | .opening => '('
  | .closing => ')'

/-- The keypad, row by row. A place may have no key. -/
def keypad : List (List (Option Key)) := [
  [some (.digit 7), some (.digit 8), some (.digit 9), some (.op .div), some .opening],
  [some (.digit 4), some (.digit 5), some (.digit 6), some (.op .mul), some .closing],
  [some (.digit 1), some (.digit 2), some (.digit 3), some (.op .sub), none],
  [some (.digit 0), some .point, none, some (.op .add), none]]

/-- Without the spaces at the end. -/
def dropFinalSpaces (cs : List Char) : List Char :=
  (cs.reverse.dropWhile (· == ' ')).reverse

/-- The question after a key was pressed. -/
def Key.press (key : Key) (question : List Char) : List Char :=
  match key with
  | .digit _ | .point => question ++ [key.char]
  | .op _ =>
    let kept := dropFinalSpaces question
    (if kept.isEmpty then [] else kept ++ [' ']) ++ [key.char, ' ']
  | .closing => dropFinalSpaces question ++ [key.char]
  | .opening =>
    match question.reverse.find? (!Text.isBlank ·) with
    | some c =>
      if c.isDigit || c == ')' then question ++ [' ', key.char] else question ++ [key.char]
    | none => question ++ [key.char]

/-- A button of the window, other than the known questions. -/
inductive Button where
  /-- Empties the question. -/
  | clearInput
  /-- Empties the results. -/
  | clearResults
  /-- Empties everything. -/
  | reset
  /-- Takes away the last character of the question. -/
  | delete
  | ask
  | key (key : Key)
  deriving Repr, DecidableEq

def Button.label : Button → String
  | .clearInput => "C"
  | .clearResults => "CLR"
  | .reset => "AC"
  | .delete => "DEL"
  | .ask => "Demander"
  | .key k => k.char.toString

/-- The buttons above the keypad. -/
def actions : List Button := [.clearInput, .clearResults, .reset, .delete, .ask]

/-- The button with this label. -/
def Button.ofLabel? (label : String) : Option Button :=
  (actions ++ (keypad.flatten.filterMap id).map Button.key).find? (·.label = label)

end AnswerDesk.Window
