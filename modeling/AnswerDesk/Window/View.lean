import AnswerDesk.Window

/-!
# `AnswerDesk.Window.View`: the texts on screen

The texts that the window shows, from top to bottom, with all panels open. Buttons
and the titles of panels stand in brackets; a place of the keypad without a key is an
empty text. The question itself is not among them.
-/

set_option autoImplicit false

namespace AnswerDesk.Window

/-- The text of a button. -/
def bracketed (label : String) : String :=
  "[" ++ label ++ "]"

/-- The buttons, the keypad row by row. -/
def buttonTexts : List String :=
  actions.map (bracketed ·.label) ++
    keypad.flatten.map fun place => match place with
      | some key => bracketed (Button.label (.key key))
      | none => ""

/-- The panel that shows how the answer was calculated. -/
def explanationTexts : Option Explanation → List String
  | some x => ["Jetons :", x.tokens, "Arbre :", x.tree]
  | none => ["indisponible"]

/-- An exchange on one line. -/
def exchangeText (exchange : Exchange) : String :=
  match exchange.outcome with
  | .answered answer => s!"{exchange.question} → {answer}"
  | .failed message => s!"{exchange.question} → {message}"

/-- The panel that shows the exchanges, newest first. -/
def historyTexts : List Exchange → List String
  | [] => ["vide"]
  | history => history.reverse.map exchangeText

/-- All texts of the window. -/
def view (desk : Desk) (w : Window) : List String :=
  ["RoboBob", "Question :"] ++ buttonTexts ++
    (if w.errorLine.isEmpty then [] else [w.errorLine]) ++
    ["Réponse :", w.answer, bracketed "Démarche"] ++ explanationTexts w.explanation ++
    bracketed s!"Questions connues ({desk.known.length})" :: desk.known.map bracketed ++
    bracketed "Historique" :: historyTexts w.history

end AnswerDesk.Window
