import AnswerDesk.Journal
import AnswerDesk.Resolver
import AnswerDesk.Table
import AnswerDesk.Window.Keypad

/-!
# `AnswerDesk.Window`: the window of the desk

The window holds the question being typed, the last answer, the last error, the
explanation of the last answer if it was calculated, and the exchanges so far. What
happens to it is an `Event`, and `Window.step` is the only way in which it changes.

* An answer replaces the last one and removes the error. An error leaves the last
  answer in sight and removes the explanation.
* Every question that is asked becomes an exchange, whatever comes of it. The last
  `maxHistory` exchanges are kept.
* After every action the question is to have the focus again. Drawing a frame gives
  it the focus and uses up the request, which `focused` records.
-/

set_option autoImplicit false

namespace AnswerDesk

open Journal (Entry)

/-- What came of a question. -/
inductive Outcome where
  | answered (answer : String)
  | failed (message : String)
  deriving Repr, DecidableEq

/-- A question, and what came of it. -/
structure Exchange where
  question : String
  outcome : Outcome
  deriving Repr, DecidableEq

/-- What stands behind a window: what answers questions, and the questions it shows
as known. -/
structure Desk where
  resolver : Resolver
  known : List String

/-- The desk that knows the questions of a table. -/
def Desk.ofTable (table : Table) (limits : Limits) : Desk where
  resolver := Resolver.withLimits table.lookup limits
  known := table.questions

/-- The state of a window. -/
structure Window where
  /-- The question being typed. -/
  input : String := ""
  answer : String := ""
  errorLine : String := ""
  explanation : Option Explanation := none
  /-- The exchanges that are kept, oldest first. -/
  history : List Exchange := []
  /-- The question is to have the focus in the next frame. -/
  focused : Bool := true
  deriving Repr, DecidableEq

namespace Window

/-- The number of exchanges that are kept. -/
def maxHistory : Nat := 50

/-- The last exchanges of the history and one more. -/
def remember (history : List Exchange) (exchange : Exchange) : List Exchange :=
  let all := history ++ [exchange]
  all.drop (all.length - maxHistory)

def clearInput (w : Window) : Window :=
  { w with input := "", focused := true }

def clearResults (w : Window) : Window :=
  { w with answer := "", errorLine := "", explanation := none, focused := true }

def reset (w : Window) : Window :=
  { w.clearResults with input := "", history := [], focused := true }

/-- Shows the answer to a question. -/
def showAnswer (w : Window) (question answer : String) (explanation : Option Explanation) :
    Window :=
  { w with
    answer
    errorLine := ""
    explanation
    history := remember w.history ⟨question, .answered answer⟩
    focused := true }

/-- Shows that a question failed. -/
def showError (w : Window) (question message : String) : Window :=
  { w with
    errorLine := message
    explanation := none
    history := remember w.history ⟨question, .failed message⟩
    focused := true }

/-- The report on a question that failed. -/
def failureReport (question : String) (e : ResolutionError) : Entry :=
  match e with
  | .emptyQuestion => ⟨.warn, .window, e.message⟩
  | .tooLong .. => ⟨.warn, .window, e.message⟩
  | .notFound _ => ⟨.warn, .window, e.message⟩
  | .arithmetic (.value _) =>
    ⟨.error, .window, s!"calcul impossible pour '{question}' : {e.message}"⟩
  | .arithmetic _ => ⟨.error, .window, s!"expression invalide '{question}' : {e.message}"⟩

/-- Asks the question that was typed. An answer to what resembles a calculation comes
with an explanation if there is one. -/
def ask (desk : Desk) (w : Window) : Window × List Entry :=
  let question := Text.trimmed w.input
  let received : Entry := ⟨.info, .window, s!"question reçue : '{question}'"⟩
  match desk.resolver.resolve question with
  | .ok answer =>
    let explanation :=
      if Calculation.isCandidate question.toList then
        (desk.resolver.explain question).toOption
      else
        none
    (w.showAnswer question answer explanation,
      [received, ⟨.info, .window, s!"réponse : '{answer}'"⟩])
  | .error e =>
    (w.showError question e.message, [received, failureReport question e])

/-- Presses a button. -/
def press (desk : Desk) (w : Window) : Button → Window × List Entry
  | .clearInput => (w.clearInput, [])
  | .clearResults => (w.clearResults, [])
  | .reset => (w.reset, [])
  | .delete => ({ w with input := String.ofList w.input.toList.dropLast, focused := true }, [])
  | .ask => w.ask desk
  | .key k => ({ w with input := String.ofList (k.press w.input.toList), focused := true }, [])

/-- What can happen to a window. A frame draws the field of the question first and the buttons
behind it, so what is done in one frame may be two events. A frame in which text is typed is
`type` and then `frame`, and one with a click is `frame` and then `click` or `known`. -/
inductive Event where
  /-- This text is written to the question. Nothing is drawn by that. -/
  | type (text : String)
  /-- An answer is shown that was found elsewhere. -/
  | answer (question answer : String) (explanation : Option Explanation)
  /-- An error is shown that arose elsewhere. -/
  | error (question message : String)
  | clearInput
  | clearResults
  | reset
  | click (button : Button)
  /-- A click on the known question with this index. -/
  | known (index : Nat)
  /-- A frame is drawn in which neither Escape nor Enter is pressed. -/
  | frame
  /-- A frame is drawn in which the key Escape is pressed. -/
  | escape
  /-- A frame is drawn in which the key Enter is pressed. -/
  | enter
  deriving Repr, DecidableEq

/-- The window after an event, and what there is to report. Enter asks the question
only if it had the focus to lose. -/
def step (desk : Desk) (w : Window) : Event → Window × List Entry
  | .type text => ({ w with input := text }, [])
  | .answer question answer explanation => (w.showAnswer question answer explanation, [])
  | .error question message => (w.showError question message, [])
  | .clearInput => (w.clearInput, [])
  | .clearResults => (w.clearResults, [])
  | .reset => (w.reset, [])
  | .click button => w.press desk button
  | .known index =>
    match desk.known[index]? with
    | some question => { w with input := question }.ask desk
    | none => (w, [])
  | .frame => ({ w with focused := false }, [])
  | .escape => ({ w.clearInput with focused := false }, [])
  | .enter => if w.focused then w.ask desk else (w, [])

/-- The window after several events. -/
def run (desk : Desk) (w : Window) (events : List Event) : Window :=
  events.foldl (fun w e => (w.step desk e).1) w

end Window

end AnswerDesk
