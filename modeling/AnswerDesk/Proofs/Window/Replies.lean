import AnswerDesk.Window

/-!
# `AnswerDesk.Proofs.Window.Replies`: what a window has been shown since it was cleared

Many events act on a window, and few of them matter for what it shows. A `Reply` is what
can be shown: an answer with its explanation, or the message of a failure. `Desk.reply` is
the reply of the desk to a question as it was typed, and to ask is to show it (`ask_eq`).

The `Effect` of an event is one of four: it shows a reply, clears the results, resets the
window, or keeps what is shown. `step_eq` says that this is all: apart from its effect, an
event changes at most the question being typed and the focus. So a fact about what is shown
has four cases and not one for each event and each button.

`repliesSinceClear` records the replies of a run since the results were last cleared.
`reflects_run` proves that the window shows exactly what these replies say, after every
run: `Reflects` holds of an empty window with no replies, and each event keeps it
(`reflects_step`).
-/

set_option autoImplicit false

namespace AnswerDesk

/-- What a window can be shown. Only an answer has an explanation. -/
inductive Reply where
  | answered (question answer : String) (explanation : Option Explanation)
  | failed (question message : String)
  deriving Repr, DecidableEq

namespace Reply

/-- The exchange that the window keeps of a reply. -/
def exchange : Reply → Exchange
  | .answered question answer _ => ⟨question, .answered answer⟩
  | .failed question message => ⟨question, .failed message⟩

def answer? : Reply → Option String
  | .answered _ answer _ => some answer
  | .failed _ _ => none

def message? : Reply → Option String
  | .answered _ _ _ => none
  | .failed _ message => some message

def explanation : Reply → Option Explanation
  | .answered _ _ explanation => explanation
  | .failed _ _ => none

/-- A reply with an explanation is an answer. -/
theorem eq_answered_of_explanation {r : Reply} {d : Explanation} (h : r.explanation = some d) :
    ∃ question answer, r = .answered question answer (some d) := by
  cases r with
  | answered question answer explanation =>
    cases h
    exact ⟨question, answer, rfl⟩
  | failed question message => cases h

end Reply

/-- What the desk replies to a question as it was typed. -/
def Desk.reply (desk : Desk) (typed : String) : Reply :=
  let question := Text.trimmed typed
  match desk.resolver.resolve question with
  | .ok answer =>
    .answered question answer
      (if Calculation.isCandidate question.toList then
        (desk.resolver.explain question).toOption
      else
        none)
  | .error e => .failed question e.message

/-- The reply to a question that has an answer is that answer. -/
theorem Desk.exists_reply_of_ok {desk : Desk} {typed answer : String}
    (h : desk.resolver.resolve (Text.trimmed typed) = .ok answer) :
    ∃ explanation, desk.reply typed = .answered (Text.trimmed typed) answer explanation := by
  simp only [reply, h]
  exact ⟨_, rfl⟩

/-- The reply to a question that has no answer says why. -/
theorem Desk.reply_of_error {desk : Desk} {typed : String} {e : ResolutionError}
    (h : desk.resolver.resolve (Text.trimmed typed) = .error e) :
    desk.reply typed = .failed (Text.trimmed typed) e.message := by
  simp only [reply, h]

namespace Window

def showReply (w : Window) : Reply → Window
  | .answered question answer explanation => w.showAnswer question answer explanation
  | .failed question message => w.showError question message

/-- To ask is to show the reply of the desk to the question as it was typed. -/
theorem ask_eq (desk : Desk) (w : Window) (typed : String) :
    ({ w with input := typed }.ask desk).1 =
      { w.showReply (desk.reply typed) with input := typed, focused := true } := by
  simp only [ask, Desk.reply]
  cases desk.resolver.resolve (Text.trimmed typed) with
  | ok answer => simp only [showReply, showAnswer]
  | error e => simp only [showReply, showError]

/-- The newest exchange is kept. -/
theorem getLast?_remember (history : List Exchange) (x : Exchange) :
    (remember history x).getLast? = some x := by
  rw [remember, List.getLast?_drop, if_neg, List.getLast?_concat]
  have : 0 < maxHistory := by decide
  simp only [List.length_append, List.length_singleton]
  omega

@[simp]
theorem answer_showReply (w : Window) (r : Reply) :
    (w.showReply r).answer = r.answer?.getD w.answer := by
  cases r <;> rfl

@[simp]
theorem errorLine_showReply (w : Window) (r : Reply) :
    (w.showReply r).errorLine = r.message?.getD "" := by
  cases r <;> rfl

@[simp]
theorem explanation_showReply (w : Window) (r : Reply) :
    (w.showReply r).explanation = r.explanation := by
  cases r <;> rfl

@[simp]
theorem history_showReply (w : Window) (r : Reply) :
    (w.showReply r).history = remember w.history r.exchange := by
  cases r <;> rfl

/-! ### The effect of an event -/

/-- What an event does to what a window shows. -/
inductive Effect where
  | shows (r : Reply)
  | clearsResults
  | resets
  | keeps
  deriving Repr, DecidableEq

/-- The effect of a button. -/
def buttonEffect (desk : Desk) (w : Window) : Button → Effect
  | .clearResults => .clearsResults
  | .reset => .resets
  | .ask => .shows (desk.reply w.input)
  | .clearInput | .delete | .key _ => .keeps

/-- The effect of an event on a window. -/
def effect (desk : Desk) (w : Window) : Event → Effect
  | .answer question answer explanation => .shows (.answered question answer explanation)
  | .error question message => .shows (.failed question message)
  | .clearResults => .clearsResults
  | .reset => .resets
  | .click button => w.buttonEffect desk button
  | .known index =>
    match desk.known[index]? with
    | some question => .shows (desk.reply question)
    | none => .keeps
  | .enter => if w.focused then .shows (desk.reply w.input) else .keeps
  | .type _ | .clearInput | .frame | .escape => .keeps

/-- The window after an effect. -/
def affected (w : Window) : Effect → Window
  | .shows r => w.showReply r
  | .clearsResults => w.clearResults
  | .resets => w.reset
  | .keeps => w

/-- A button does what its effect says, apart from the question being typed and the focus. -/
theorem press_eq (desk : Desk) (w : Window) (b : Button) :
    ∃ input focused,
      (w.press desk b).1 = { w.affected (w.buttonEffect desk b) with input, focused } := by
  cases b with
  | ask => exact ⟨w.input, true, ask_eq desk w w.input⟩
  | clearInput => exact ⟨"", true, rfl⟩
  | clearResults => exact ⟨w.input, true, rfl⟩
  | reset => exact ⟨"", true, rfl⟩
  | delete => exact ⟨String.ofList w.input.toList.dropLast, true, rfl⟩
  | key k => exact ⟨String.ofList (k.press w.input.toList), true, rfl⟩

/-- **An event does what its effect says**, apart from the question being typed and the
focus. -/
theorem step_eq (desk : Desk) (w : Window) (e : Event) :
    ∃ input focused,
      (w.step desk e).1 = { w.affected (w.effect desk e) with input, focused } := by
  cases e with
  | click b => exact press_eq desk w b
  | known i =>
    simp only [step, effect]
    cases desk.known[i]? with
    | none => exact ⟨w.input, w.focused, rfl⟩
    | some question => exact ⟨question, true, ask_eq desk w question⟩
  | enter =>
    simp only [step, effect]
    split
    · exact ⟨w.input, true, ask_eq desk w w.input⟩
    · exact ⟨w.input, w.focused, rfl⟩
  | answer question answer explanation => exact ⟨w.input, true, rfl⟩
  | error question message => exact ⟨w.input, true, rfl⟩
  | type text => exact ⟨text, w.focused, rfl⟩
  | clearInput => exact ⟨"", true, rfl⟩
  | clearResults => exact ⟨w.input, true, rfl⟩
  | reset => exact ⟨"", true, rfl⟩
  | frame => exact ⟨w.input, false, rfl⟩
  | escape => exact ⟨"", false, rfl⟩

/-! ### The replies of a run -/

/-- The replies since the results were last cleared, after one more effect. -/
def Effect.record (replies : List Reply) : Effect → List Reply
  | .shows r => replies ++ [r]
  | .clearsResults | .resets => []
  | .keeps => replies

/-- The replies that a run adds to those before it, since the results were last cleared. -/
def repliesFrom (desk : Desk) (w : Window) (replies : List Reply) : List Event → List Reply
  | [] => replies
  | e :: events => repliesFrom desk (w.step desk e).1 ((w.effect desk e).record replies) events

/-- The replies of a run of a new window since its results were last cleared, oldest
first. -/
def repliesSinceClear (desk : Desk) (events : List Event) : List Reply :=
  repliesFrom desk {} [] events

/-- What every event of a run keeps of a window and its replies holds after the run. -/
theorem run_invariant {desk : Desk} {I : Window → List Reply → Prop} {events : List Event}
    (hstep : ∀ e ∈ events, ∀ w replies, I w replies →
      I (w.step desk e).1 ((w.effect desk e).record replies)) :
    ∀ (w : Window) (replies : List Reply), I w replies →
      I (run desk w events) (repliesFrom desk w replies events) := by
  induction events with
  | nil => exact fun _ _ h => h
  | cons e events ih =>
    intro w replies h
    exact ih (fun e' he' => hstep e' (List.mem_cons_of_mem e he')) _ _
      (hstep e List.mem_cons_self w replies h)

/-- The window shows what these replies say: the last answer among them, and the message
and the explanation of the last one. That one is the newest of the history. -/
structure Reflects (w : Window) (replies : List Reply) : Prop where
  answer : w.answer = (replies.filterMap Reply.answer?).getLast?.getD ""
  errorLine : w.errorLine = (replies.getLast?.bind Reply.message?).getD ""
  explanation : w.explanation = replies.getLast?.bind Reply.explanation
  history : ∀ r, replies.getLast? = some r → w.history.getLast? = some r.exchange

/-- A new window shows nothing. -/
theorem reflects_new : Reflects {} [] :=
  ⟨rfl, rfl, rfl, fun _ h => by cases h⟩

/-- An effect shows what it records. -/
theorem reflects_affected {w : Window} {replies : List Reply} (h : Reflects w replies)
    (x : Effect) : Reflects (w.affected x) (x.record replies) := by
  cases x with
  | shows r =>
    refine ⟨?_, ?_, ?_, ?_⟩
    · -- A failure leaves the answer before it in sight, however long ago that was.
      simp only [affected, Effect.record, answer_showReply, List.filterMap_append]
      cases ha : r.answer? with
      | none => simp [ha, h.answer]
      | some a => simp [ha]
    · simp [affected, Effect.record]
    · simp [affected, Effect.record]
    · intro r' hr'
      simp only [Effect.record, List.getLast?_concat, Option.some.injEq] at hr'
      rw [affected, history_showReply, getLast?_remember, hr']
  | clearsResults => exact ⟨rfl, rfl, rfl, fun _ h => by cases h⟩
  | resets => exact ⟨rfl, rfl, rfl, fun _ h => by cases h⟩
  | keeps => exact h

/-- An event keeps that the window shows what its replies say. -/
theorem reflects_step {desk : Desk} {w : Window} {replies : List Reply} (h : Reflects w replies)
    (e : Event) : Reflects (w.step desk e).1 ((w.effect desk e).record replies) := by
  obtain ⟨input, focused, heq⟩ := step_eq desk w e
  have hx := reflects_affected h (w.effect desk e)
  rw [heq]
  -- The question being typed and the focus are no part of what is shown.
  exact ⟨hx.answer, hx.errorLine, hx.explanation, hx.history⟩

/-- **After every run the window shows what the replies since it was last cleared say.** -/
theorem reflects_run (desk : Desk) (events : List Event) :
    Reflects (run desk {} events) (repliesSinceClear desk events) :=
  run_invariant (I := Reflects) (fun e _ _ _ h => reflects_step h e) {} [] reflects_new

end Window

end AnswerDesk
