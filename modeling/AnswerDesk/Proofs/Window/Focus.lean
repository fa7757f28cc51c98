import AnswerDesk.Proofs.Window.Replies

/-!
# `AnswerDesk.Proofs.Window.Focus`: what drawing a frame changes

Drawing a frame changes nothing in sight. It uses up the request for the focus, and Enter asks
only while that request stands. So a frame shows through the Enters behind it, and through
nothing else.

`Event.type` is the bare write to the question, and draws nothing. Nobody types without a frame:
a frame in which text is typed is `Event.type` and then `Event.frame`, and it uses up the request
like an idle one. The results below are about all sequences of events. What a user can do is
among them, with a frame drawn behind every `Event.type`.

* `focused_run`: the request stands after a run if the last event that settles it makes it
  (`focusAfter`). That is read off the events, whatever the questions and the answers are.
* `alike_run_settled`: what came of each Enter settles the run. Leave the frames out, and put
  a click on the button that asks in place of each Enter that asks: the windows are alike.
* `frames_show_only_through_enter` is the main result: two runs that differ by the frames that
  are drawn end in windows that are alike, provided that the same Enters of the two ask; and
  Enter asks when the request stands.

The proviso is needed. One idle frame between a click and Enter, and the question is not asked
(`frame_swallows_enter`).
-/

set_option autoImplicit false

namespace AnswerDesk.Window

/-- The windows hold the same question and show the same. They may differ in the focus. -/
structure Alike (w w' : Window) : Prop where
  input : w.input = w'.input
  answer : w.answer = w'.answer
  errorLine : w.errorLine = w'.errorLine
  explanation : w.explanation = w'.explanation
  history : w.history = w'.history

theorem Alike.refl (w : Window) : Alike w w :=
  ⟨rfl, rfl, rfl, rfl, rfl⟩

theorem Alike.trans {w₁ w₂ w₃ : Window} (h : Alike w₁ w₂) (h' : Alike w₂ w₃) : Alike w₁ w₃ :=
  ⟨h.input.trans h'.input, h.answer.trans h'.answer, h.errorLine.trans h'.errorLine,
    h.explanation.trans h'.explanation, h.history.trans h'.history⟩

theorem Alike.symm {w w' : Window} (h : Alike w w') : Alike w' w :=
  ⟨h.input.symm, h.answer.symm, h.errorLine.symm, h.explanation.symm, h.history.symm⟩

/-- Windows that are alike are one window, up to its focus. -/
theorem Alike.exists_eq {w w' : Window} (h : Alike w w') : ∃ b, w' = { w with focused := b } := by
  obtain ⟨input, answer, errorLine, explanation, history, focused⟩ := w
  obtain ⟨_, _, _, _, _, focused'⟩ := w'
  obtain ⟨rfl, rfl, rfl, rfl, rfl⟩ := h
  exact ⟨focused', rfl⟩

/-- Asking does not look at the focus. -/
theorem ask_focused (desk : Desk) (w : Window) (b : Bool) :
    ({ w with focused := b } : Window).ask desk = w.ask desk := by
  simp only [ask]
  cases desk.resolver.resolve (Text.trimmed w.input) with
  | ok answer => rfl
  | error e => rfl

/-- No button looks at the focus. -/
theorem press_focused (desk : Desk) (w : Window) (b : Bool) (button : Button) :
    ({ w with focused := b } : Window).press desk button = w.press desk button := by
  cases button with
  | ask => exact ask_focused desk w b
  | clearInput => simp only [press, Window.clearInput]
  | clearResults => simp only [press, Window.clearResults]
  | reset => simp only [press, Window.reset, Window.clearResults]
  | delete => simp only [press]
  | key k => simp only [press]

/-- Only Enter looks at the focus. -/
theorem alike_step (desk : Desk) {w w' : Window} (h : Alike w w') {e : Event}
    (he : e ≠ .enter) : Alike (w.step desk e).1 (w'.step desk e).1 := by
  obtain ⟨b, rfl⟩ := h.exists_eq
  cases e with
  | enter => exact absurd rfl he
  | click button =>
      simp only [step, press_focused]
      exact .refl _
  | known i =>
      simp only [step]
      cases desk.known[i]? with
      | none => exact h
      | some question =>
          have hask := ask_focused desk { w with input := question } b
          simp only at hask ⊢
          rw [hask]
          exact .refl _
  | type text => exact ⟨rfl, rfl, rfl, rfl, rfl⟩
  | frame => exact ⟨rfl, rfl, rfl, rfl, rfl⟩
  | escape => exact ⟨rfl, rfl, rfl, rfl, rfl⟩
  | answer question answer explanation =>
      simp only [step, showAnswer]
      exact .refl _
  | error question message =>
      simp only [step, showError]
      exact .refl _
  | clearInput =>
      simp only [step, Window.clearInput]
      exact .refl _
  | clearResults =>
      simp only [step, Window.clearResults]
      exact .refl _
  | reset =>
      simp only [step, Window.reset, Window.clearResults]
      exact .refl _

/-! ### The request for the focus -/

/-- How an event settles the request for the focus: by making it, or by using it up. Enter
leaves it as it is, and so does the bare write of `Event.type`. When a user types, the request is
used up by the `Event.frame` behind that write. -/
def Event.focus? (desk : Desk) : Event → Option Bool
  | .type _ | .enter => none
  | .frame | .escape => some false
  | .known i => if i < desk.known.length then some true else none
  | .answer _ _ _ | .error _ _ | .clearInput | .clearResults | .reset | .click _ => some true

/-- Whether the request for the focus stands after the events, if `b` says so before them. -/
def focusAfter (desk : Desk) (b : Bool) (events : List Event) : Bool :=
  events.foldl (fun b e => (e.focus? desk).getD b) b

/-- Asking requests the focus. -/
theorem focused_ask (desk : Desk) (w : Window) : (w.ask desk).1.focused = true := by
  simp only [ask]
  split <;> simp only [showAnswer, showError]

/-- An event settles the request for the focus as `Event.focus?` says. -/
theorem focused_step (desk : Desk) (w : Window) (e : Event) :
    (w.step desk e).1.focused = (e.focus? desk).getD w.focused := by
  cases e with
  | click button =>
      simp only [step, Event.focus?, Option.getD_some]
      cases button with
      | ask =>
          simp only [press]
          exact focused_ask desk w
      | clearInput => rfl
      | clearResults => rfl
      | reset => rfl
      | delete => rfl
      | key k => rfl
  | known i =>
      simp only [step, Event.focus?]
      by_cases hi : i < desk.known.length
      · simp only [List.getElem?_eq_getElem hi, if_pos hi, Option.getD_some]
        exact focused_ask desk _
      · rw [List.getElem?_eq_none (by omega), if_neg hi]
        rfl
  | enter =>
      simp only [step, Event.focus?]
      split
      · rename_i hfocused
        rw [focused_ask, Option.getD_none, hfocused]
      · rfl
  | type text => rfl
  | answer question answer explanation => rfl
  | error question message => rfl
  | clearInput => rfl
  | clearResults => rfl
  | reset => rfl
  | frame => rfl
  | escape => rfl

/-- **The request for the focus is settled by the events alone.** -/
theorem focused_run (desk : Desk) (events : List Event) :
    ∀ w : Window, (run desk w events).focused = focusAfter desk w.focused events := by
  induction events with
  | nil => exact fun _ => rfl
  | cons e events ih =>
      intro w
      show (run desk (w.step desk e).1 events).focused = _
      rw [ih, focused_step]
      rfl

/-! ### Frames left out -/

/-- The events other than `Event.frame`. Where a user types, the write is kept, and the drawing
of that frame is left out like the idle frames. -/
def withoutFrames (events : List Event) : List Event :=
  events.filter (· ≠ .frame)

/-- For each Enter among the events, whether it asks. The request for the focus stands before
the events if `b` says so. -/
def enters (desk : Desk) (b : Bool) : List Event → List Bool
  | [] => []
  | e :: events =>
    (if e = .enter then [b] else []) ++ enters desk ((e.focus? desk).getD b) events

/-- The events with what came of each Enter in its place: a click on the button that asks, or
nothing. -/
def settled : List Event → List Bool → List Event
  | [], _ => []
  | e :: events, asks =>
    if e = .enter then
      (if asks.headD false then [.click .ask] else []) ++ settled events asks.tail
    else
      e :: settled events asks

/-- **What came of each Enter settles a run, whatever frames are drawn.** -/
theorem alike_run_settled (desk : Desk) (events : List Event) :
    ∀ {w w' : Window}, Alike w w' →
      Alike (run desk w events)
        (run desk w' (settled (withoutFrames events) (enters desk w.focused events))) := by
  induction events with
  | nil => exact fun h => h
  | cons e events ih =>
      intro w w' h
      have hfocus : enters desk ((e.focus? desk).getD w.focused) events
          = enters desk (w.step desk e).1.focused events := by
        rw [focused_step]
      show Alike (run desk (w.step desk e).1 events) _
      by_cases hframe : e = .frame
      · -- The frame is left out, and the run behind it finds the request used up.
        subst hframe
        have hidle : Alike (w.step desk .frame).1 w := ⟨rfl, rfl, rfl, rfl, rfl⟩
        simpa [withoutFrames, enters, hfocus] using ih (hidle.trans h)
      · by_cases henter : e = .enter
        · subst henter
          have hnone : Event.focus? desk .enter = none := rfl
          rcases hw : w.focused with _ | _
          · have hstep : (w.step desk .enter).1 = w := by simp [step, hw]
            simpa [withoutFrames, enters, settled, hnone, hstep, hw] using ih h
          · have hstep : (w.step desk .enter).1 = (w.ask desk).1 := by simp [step, hw]
            have hasked : Alike (w.ask desk).1 (w'.step desk (.click .ask)).1 :=
              alike_step desk h (e := .click .ask) (by decide)
            have hrest := ih hasked
            rw [focused_ask] at hrest
            simpa [withoutFrames, enters, settled, hnone, hstep, run] using hrest
        · have hkept := ih (alike_step desk h henter)
          simpa [withoutFrames, enters, settled, hframe, henter, hfocus, run] using hkept

/-- **Frames show through Enter, and through nothing else.** Take two runs of a new window that
differ by `Event.frame`, wherever frames are drawn, be they idle or those in which text is typed.
If the same Enters ask in both, they end in windows that are alike. And Enter behind a run asks
when the last event that settles the request for the focus made it; otherwise it leaves the
window as it is. -/
theorem frames_show_only_through_enter (desk : Desk) (events events' : List Event)
    (hsame : withoutFrames events = withoutFrames events')
    (hasks : enters desk true events = enters desk true events') :
    Alike (run desk {} events) (run desk {} events') ∧
      (run desk {} events).step desk .enter =
        if focusAfter desk true events then (run desk {} events).ask desk
        else (run desk {} events, []) := by
  constructor
  · have h := alike_run_settled desk events (Alike.refl {})
    have h' := alike_run_settled desk events' (Alike.refl {})
    have hw : ({} : Window).focused = true := rfl
    rw [hw, hsame, hasks] at h
    rw [hw] at h'
    exact h.trans h'.symm
  · have hfocused := focused_run desk events {}
    simp only [step, hfocused]

/-- Two runs with frames at different places: in both the first Enter asks `7`, and the second
one, behind an idle frame, does not ask. -/
theorem frames_elsewhere_alike :
    let desk := Desk.ofTable (Table.read "").1 {}
    let events : List Event :=
      [.frame, .click (.key (.digit 7)), .enter, .click (.key .opening), .frame, .enter]
    let events' : List Event :=
      [.click (.key (.digit 7)), .enter, .frame, .click (.key .opening), .frame, .frame, .enter]
    withoutFrames events = withoutFrames events' ∧
      enters desk true events = [true, false] ∧ enters desk true events' = [true, false] ∧
      Alike (run desk {} events) (run desk {} events') ∧
      (run desk {} events).step desk .enter = (run desk {} events, []) := by
  intro desk events events'
  have hsame : withoutFrames events = withoutFrames events' := by decide
  have hasks : enters desk true events = [true, false] := by decide
  have hasks' : enters desk true events' = [true, false] := by decide
  have hfocus : focusAfter desk true events = false := by decide
  obtain ⟨halike, henter⟩ :=
    frames_show_only_through_enter desk events events' hsame (hasks.trans hasks'.symm)
  rw [hfocus] at henter
  exact ⟨hsame, hasks, hasks', halike, henter⟩

/-- One idle frame between a click and Enter, and `7` is not asked. The two runs do not end in
windows that are alike. -/
theorem frame_swallows_enter :
    let desk := Desk.ofTable (Table.read "").1 {}
    let events : List Event := [.click (.key (.digit 7)), .enter]
    let events' : List Event := [.click (.key (.digit 7)), .frame, .enter]
    withoutFrames events = withoutFrames events' ∧
      (run desk {} events).answer = "7" ∧
      (run desk {} events).history = [⟨"7", .answered "7"⟩] ∧
      (run desk {} events').answer = "" ∧ (run desk {} events').history = [] ∧
      ¬ Alike (run desk {} events) (run desk {} events') := by
  intro desk events events'
  have hsame : withoutFrames events = withoutFrames events' := by decide
  have hasked : (run desk {} events).answer = "7" ∧
      (run desk {} events).history = [⟨"7", .answered "7"⟩] := by decide +kernel
  have hidle : (run desk {} events').answer = "" ∧ (run desk {} events').history = [] := by
    decide +kernel
  refine ⟨hsame, hasked.1, hasked.2, hidle.1, hidle.2, fun halike => ?_⟩
  have hanswer := halike.answer
  rw [hasked.1, hidle.1] at hanswer
  exact absurd hanswer (by decide)

end AnswerDesk.Window
