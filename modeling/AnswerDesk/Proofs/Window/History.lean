import AnswerDesk.Proofs.Window.Replies
import Mathlib.Data.List.DropRight

/-!
# `AnswerDesk.Proofs.Window.History`: the exchanges of a run and what is left of them

A window keeps its last exchanges only, and shows what the exchanges since it was last cleared
say. Both are compared with the whole run: `effects` lists what each of its events did, so
that "since the last reset" is the part of that list behind the last reset.

* `history_eq_rtake_exchanges`: the history is the end of the list of all exchanges since the
  last reset, as long as fifty of them, in order.
* `results_reflect_replies`: the answer, the error and the explanation in sight are those of
  the replies since the results were last cleared, and events that show no reply and clear
  nothing leave them as they are. That an answer may be older than anything the history still
  has is no exception: the replies are not bounded.

The results are cleared more often than the history is reset. So the replies that are in sight
are the last of the exchanges (`map_exchange_repliesSinceClear_suffix`).
-/

set_option autoImplicit false

namespace AnswerDesk.Window

/-- The exchange of the reply that the effect shows. -/
def Effect.exchange? : Effect → Option Exchange
  | .shows r => some r.exchange
  | .clearsResults | .resets | .keeps => none

/-- What each event of a run does to what the window shows. -/
def effects (desk : Desk) (w : Window) : List Event → List Effect
  | [] => []
  | e :: events => w.effect desk e :: effects desk (w.step desk e).1 events

theorem run_concat (desk : Desk) (w : Window) (events : List Event) (e : Event) :
    run desk w (events ++ [e]) = ((run desk w events).step desk e).1 := by
  simp [run]

theorem effects_concat (desk : Desk) (w : Window) (events : List Event) (e : Event) :
    effects desk w (events ++ [e])
      = effects desk w events ++ [(run desk w events).effect desk e] := by
  induction events generalizing w with
  | nil => rfl
  | cons e' events ih => exact congrArg _ (ih (w.step desk e').1)

/-- The exchanges of a run of a new window since it was last reset, oldest first. -/
def exchangesSinceReset (desk : Desk) (events : List Event) : List Exchange :=
  ((effects desk {} events).rtakeWhile (· ≠ .resets)).filterMap Effect.exchange?

/-- One more event adds its exchange, if it shows a reply, and a reset removes them all. -/
theorem exchangesSinceReset_concat (desk : Desk) (events : List Event) (e : Event) :
    exchangesSinceReset desk (events ++ [e]) =
      match (run desk {} events).effect desk e with
      | .shows r => exchangesSinceReset desk events ++ [r.exchange]
      | .resets => []
      | .clearsResults | .keeps => exchangesSinceReset desk events := by
  rw [exchangesSinceReset, effects_concat, List.rtakeWhile_concat]
  cases (run desk {} events).effect desk e with
  | shows r => simp [exchangesSinceReset, Effect.exchange?]
  | resets => simp
  | clearsResults => simp [exchangesSinceReset, Effect.exchange?]
  | keeps => simp [exchangesSinceReset, Effect.exchange?]

/-! ### The history -/

/-- What the desk is asked becomes an exchange: the question, trimmed, and its answer or the
message of its failure. -/
theorem exchange_reply (desk : Desk) (typed : String) :
    (desk.reply typed).exchange =
      { question := Text.trimmed typed
        outcome := match desk.resolver.resolve (Text.trimmed typed) with
          | .ok answer => .answered answer
          | .error e => .failed e.message } := by
  cases h : desk.resolver.resolve (Text.trimmed typed) with
  | ok answer => simp only [Desk.reply, h, Reply.exchange]
  | error e => simp only [Desk.reply, h, Reply.exchange]

/-- An event acts on the history as its effect does. -/
theorem history_step (desk : Desk) (w : Window) (e : Event) :
    (w.step desk e).1.history = (w.affected (w.effect desk e)).history := by
  obtain ⟨input, focused, h⟩ := step_eq desk w e
  rw [h]

/-- To keep the last exchanges and then one more is to keep the last ones of them all. -/
theorem remember_rtake (xs : List Exchange) (x : Exchange) :
    remember (xs.rtake maxHistory) x = (xs ++ [x]).rtake maxHistory := by
  have hsucc : maxHistory = 49 + 1 := rfl
  show (xs.rtake maxHistory ++ [x]).rtake maxHistory = _
  rw [hsucc, List.rtake_concat_succ, List.rtake_concat_succ]
  simp [List.rtake_eq_reverse_take_reverse, List.take_take]

/-- After every run the history is the end of the exchanges since the last reset. -/
theorem history_run (desk : Desk) (events : List Event) :
    (run desk {} events).history = (exchangesSinceReset desk events).rtake maxHistory := by
  induction events using List.reverseRecOn with
  | nil => rfl
  | append_singleton events e ih =>
      rw [run_concat, history_step, exchangesSinceReset_concat]
      cases (run desk {} events).effect desk e with
      | shows r =>
          rw [affected, history_showReply, ih]
          exact remember_rtake _ _
      | resets => rfl
      | clearsResults => exact ih
      | keeps => exact ih

/-- **The history is the last fifty exchanges since the last reset**, or all of them if there
are fewer. One more event adds one exchange if it shows a reply, as `effect` says: if it asks,
or shows an answer or an error from elsewhere. A reset removes all exchanges, and every other
event leaves them. The exchange of what is asked has the question, trimmed, with the answer or
with the message that is shown. -/
theorem history_eq_rtake_exchanges (desk : Desk) (events : List Event) :
    let w := run desk {} events
    let exchanges := exchangesSinceReset desk events
    (w.history = exchanges.rtake 50 ∧ w.history.length = min 50 exchanges.length) ∧
      (∀ e, exchangesSinceReset desk (events ++ [e]) =
        match w.effect desk e with
        | .shows r => exchanges ++ [r.exchange]
        | .resets => []
        | .clearsResults | .keeps => exchanges) ∧
      ∀ typed, (desk.reply typed).exchange =
        { question := Text.trimmed typed
          outcome := match desk.resolver.resolve (Text.trimmed typed) with
            | .ok answer => .answered answer
            | .error e => .failed e.message } := by
  intro w exchanges
  have hhistory : w.history = exchanges.rtake 50 := history_run desk events
  refine ⟨⟨hhistory, ?_⟩, exchangesSinceReset_concat desk events, exchange_reply desk⟩
  rw [hhistory, List.rtake_eq_reverse_take_reverse]
  simp

/-! ### The results -/

/-- One more event adds its reply, if it shows one, and clearing the results removes them
all. -/
theorem repliesFrom_concat (desk : Desk) (events : List Event) (e : Event) :
    ∀ (w : Window) (replies : List Reply), repliesFrom desk w replies (events ++ [e])
      = ((run desk w events).effect desk e).record (repliesFrom desk w replies events) := by
  induction events with
  | nil => exact fun _ _ => rfl
  | cons e' events ih => exact fun w replies => ih _ _

/-- The replies since the results were last cleared are the last of the exchanges. -/
theorem map_exchange_repliesSinceClear_suffix (desk : Desk) (events : List Event) :
    (repliesSinceClear desk events).map Reply.exchange <:+ exchangesSinceReset desk events := by
  induction events using List.reverseRecOn with
  | nil => exact List.nil_suffix
  | append_singleton events e ih =>
      rw [repliesSinceClear, repliesFrom_concat, exchangesSinceReset_concat]
      cases (run desk {} events).effect desk e with
      | shows r =>
          obtain ⟨front, hfront⟩ := ih
          exact ⟨front, by simp [Effect.record, ← hfront, repliesSinceClear]⟩
      | resets => exact List.nil_suffix
      | clearsResults => exact List.nil_suffix
      | keeps => exact ih

/-- The event clears the results or resets the window, called for or clicked. -/
def Event.isClear : Event → Bool
  | .clearResults | .reset | .click .clearResults | .click .reset => true
  | _ => false

/-- An event that is meant to clear nothing, and shows no reply, keeps what is shown. -/
theorem effect_eq_keeps {desk : Desk} {w : Window} {e : Event} (hclear : e.isClear = false)
    (hshows : (w.effect desk e).exchange? = none) : w.effect desk e = .keeps := by
  cases e with
  | click b =>
      cases b with
      | clearResults => cases hclear
      | reset => cases hclear
      | ask => cases hshows
      | clearInput => rfl
      | delete => rfl
      | key k => rfl
  | clearResults => cases hclear
  | reset => cases hclear
  | answer question answer explanation => cases hshows
  | error question message => cases hshows
  | known i =>
      simp only [effect] at hshows ⊢
      split at hshows
      · cases hshows
      · rfl
  | enter =>
      simp only [effect] at hshows ⊢
      split at hshows
      · cases hshows
      · rename_i hfocused
        exact if_neg hfocused
  | type text => rfl
  | clearInput => rfl
  | frame => rfl
  | escape => rfl

/-- An event that keeps what is shown leaves the results and the history. -/
theorem step_of_keeps {desk : Desk} {w : Window} {e : Event} (h : w.effect desk e = .keeps) :
    (w.step desk e).1.answer = w.answer ∧ (w.step desk e).1.errorLine = w.errorLine ∧
      (w.step desk e).1.explanation = w.explanation ∧ (w.step desk e).1.history = w.history := by
  obtain ⟨input, focused, heq⟩ := step_eq desk w e
  rw [heq, h]
  exact ⟨rfl, rfl, rfl, rfl⟩

/-- A failure has no explanation. -/
theorem Reply.explanation_of_message {r : Reply} {message : String}
    (h : r.message? = some message) : r.explanation = none := by
  cases r with
  | answered question answer explanation => cases h
  | failed question message => rfl

/-- **The results in sight are those of the exchanges since the last clear.** Take the replies
since the results were last cleared, which are the last of the exchanges.

- The answer is the last one among them, however many failures came after it and whether or
  not the history still has it.
- The error is the message of the last of them, and the explanation is the one that came with
  it. So the two are never there together.
- An event that records no exchange and is no clearing leaves the results and the history. -/
theorem results_reflect_replies (desk : Desk) (events : List Event) :
    let w := run desk {} events
    let replies := repliesSinceClear desk events
    replies.map Reply.exchange <:+ exchangesSinceReset desk events ∧
      (w.answer = (replies.filterMap Reply.answer?).getLast?.getD "" ∧
        w.errorLine = (replies.getLast?.bind Reply.message?).getD "" ∧
        w.explanation = replies.getLast?.bind Reply.explanation) ∧
      (w.errorLine ≠ "" → w.explanation = none) ∧
      ∀ e : Event, e.isClear = false → (w.effect desk e).exchange? = none →
        (w.step desk e).1.answer = w.answer ∧ (w.step desk e).1.errorLine = w.errorLine ∧
        (w.step desk e).1.explanation = w.explanation ∧
        (w.step desk e).1.history = w.history := by
  intro w replies
  have hreflects : Reflects w replies := reflects_run desk events
  refine ⟨map_exchange_repliesSinceClear_suffix desk events,
    ⟨hreflects.answer, hreflects.errorLine, hreflects.explanation⟩, ?_, ?_⟩
  · intro herror
    rw [hreflects.errorLine] at herror
    rw [hreflects.explanation]
    -- There is an error in sight, so the last reply is a failure.
    cases hlast : replies.getLast? with
    | none => rfl
    | some r =>
        rw [hlast] at herror
        cases hmessage : r.message? with
        | none => simp [hmessage] at herror
        | some message => exact Reply.explanation_of_message hmessage
  · exact fun e hclear hexchange => step_of_keeps (effect_eq_keeps hclear hexchange)

/-- After a quotient, a failure and a clear of the question, the quotient is still in sight
beside the error, and an idle frame changes none of it. -/
theorem failure_leaves_quotient :
    let desk := Desk.ofTable (Table.read "").1 {}
    let events : List Event :=
      [.type "1/4", .click .ask, .type "1/0", .click .ask, .click .clearInput]
    let w := run desk {} events
    w.answer = "0.25" ∧ w.errorLine ≠ "" ∧ w.explanation = none ∧
      Event.frame.isClear = false ∧ (w.effect desk .frame).exchange? = none ∧
      (w.step desk .frame).1.answer = w.answer ∧
      (w.step desk .frame).1.history = w.history := by
  intro desk events w
  have hanswer : w.answer = "0.25" := by decide +kernel
  have herror : w.errorLine ≠ "" := by decide +kernel
  obtain ⟨-, -, halone, hkept⟩ := results_reflect_replies desk events
  obtain ⟨hsame, -, -, hhistory⟩ := hkept .frame rfl rfl
  exact ⟨hanswer, herror, halone herror, rfl, rfl, hsame, hhistory⟩

end AnswerDesk.Window
