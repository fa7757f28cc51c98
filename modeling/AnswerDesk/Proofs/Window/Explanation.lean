import AnswerDesk.Proofs.Resolver
import AnswerDesk.Proofs.Text.Normal
import AnswerDesk.Proofs.Window.Replies

/-!
# `AnswerDesk.Proofs.Window.Explanation`: what a window explains

A window that only its user acts on shows replies of the desk and no others
(`mem_repliesSinceClear`). So an explanation that is in sight came with an answer of the
desk, and it is the one that the desk gives for the question (`Desk.of_reply_explained`).

`shown_explanation_reads_last_question` is the main result. The explanation in sight is
that of the last question asked since the window was cleared, whose answer is in sight and
the newest of the history, and it shows how this question is read. Where the question is
not known, the answer is the value of the tree that is explained.

A known question may resemble a calculation. Then its answer is the known one, and the
window explains the calculation all the same: the explanation follows from the text of the
question, and does not ask where the answer is from (`known_answer_explained`).
-/

set_option autoImplicit false

namespace AnswerDesk

/-- A reply of the desk that has an explanation answers the question, trimmed, and has the
explanation that the desk gives for it. -/
theorem Desk.of_reply_explained {desk : Desk} {typed question answer : String} {d : Explanation}
    (h : desk.reply typed = .answered question answer (some d)) :
    question = Text.trimmed typed ∧ desk.resolver.resolve question = .ok answer ∧
      desk.resolver.explain question = .ok d := by
  cases hresolve : desk.resolver.resolve (Text.trimmed typed) with
  | error e =>
    rw [reply_of_error hresolve] at h
    cases h
  | ok a =>
    simp only [reply, hresolve, Reply.answered.injEq] at h
    obtain ⟨rfl, rfl, hexplanation⟩ := h
    refine ⟨rfl, hresolve, ?_⟩
    split at hexplanation
    · cases hexplain : desk.resolver.explain (Text.trimmed typed) with
      | ok d' =>
        rw [hexplain] at hexplanation
        cases hexplanation
        rfl
      | error e =>
        rw [hexplain] at hexplanation
        cases hexplanation
    · cases hexplanation

namespace Window

/-- The user can cause the event. Answers and errors from elsewhere are not of this kind. -/
def Event.isUser : Event → Bool
  | .answer _ _ _ | .error _ _ => false
  | _ => true

/-- What a user makes a window show is a reply of the desk. -/
theorem exists_reply_of_effect {desk : Desk} {w : Window} {e : Event} {r : Reply}
    (huser : e.isUser = true) (h : w.effect desk e = .shows r) : ∃ typed, r = desk.reply typed := by
  cases e with
  | answer _ _ _ => cases huser
  | error _ _ => cases huser
  | click b =>
    cases b with
    | ask => exact ⟨w.input, (Effect.shows.inj h).symm⟩
    | clearInput => cases h
    | clearResults => cases h
    | reset => cases h
    | delete => cases h
    | key _ => cases h
  | known i =>
    simp only [effect] at h
    split at h
    · rename_i question _
      exact ⟨question, (Effect.shows.inj h).symm⟩
    · cases h
  | enter =>
    simp only [effect] at h
    split at h
    · exact ⟨w.input, (Effect.shows.inj h).symm⟩
    · cases h
  | type _ => cases h
  | clearInput => cases h
  | clearResults => cases h
  | reset => cases h
  | frame => cases h
  | escape => cases h

/-- One event of a user adds replies of the desk only. -/
theorem mem_record {desk : Desk} {w : Window} {e : Event} {replies : List Reply}
    (huser : e.isUser = true) (h : ∀ r ∈ replies, ∃ typed, r = desk.reply typed) :
    ∀ r ∈ (w.effect desk e).record replies, ∃ typed, r = desk.reply typed := by
  intro r hr
  cases heffect : w.effect desk e with
  | shows new =>
    rw [heffect, Effect.record, List.mem_append, List.mem_singleton] at hr
    rcases hr with hold | rfl
    · exact h r hold
    · exact exists_reply_of_effect huser heffect
  | clearsResults =>
    rw [heffect] at hr
    cases hr
  | resets =>
    rw [heffect] at hr
    cases hr
  | keeps =>
    rw [heffect] at hr
    exact h r hr

/-- The replies of a run that only the user acts on are replies of the desk. -/
theorem mem_repliesSinceClear {desk : Desk} {events : List Event}
    (huser : ∀ e ∈ events, e.isUser = true) :
    ∀ r ∈ repliesSinceClear desk events, ∃ typed, r = desk.reply typed :=
  run_invariant (I := fun _ replies => ∀ r ∈ replies, ∃ typed, r = desk.reply typed)
    (fun e he _ _ h => mem_record (huser e he) h) {} [] (fun _ hr => by cases hr)

/-- The explanation `d`, in sight after a run, belongs to the answer to the last question:

- `last`: the two came with the last reply since the window was cleared;
- `newest`, `shown`, `noError`: that answer is the newest of the history, it is in sight, and
  no error is;
- `explained`, `reading`, `texts`: `d` is how the desk explains the question, by the tokens
  and the tree that it reads it as;
- `source`: the answer is the known one, or the question is not known and the answer is the
  value of that tree. -/
structure Explains (desk : Desk) (events : List Event) (d : Explanation)
    (question answer : String) (tokens : List Token) (e : Expr) : Prop where
  last : (repliesSinceClear desk events).getLast? = some (.answered question answer (some d))
  newest : (run desk {} events).history.getLast? = some ⟨question, .answered answer⟩
  shown : (run desk {} events).answer = answer
  noError : (run desk {} events).errorLine = ""
  explained : desk.resolver.explain question = .ok d
  reading : Calculation.read desk.resolver.limits question.toList = .ok (tokens, e)
  texts : d = ⟨Token.line tokens, e.text⟩
  source : desk.resolver.lookup (Table.key question.toList) = some answer ∨
    desk.resolver.lookup (Table.key question.toList) = none ∧
      ∃ v, e.evaluate = .ok v ∧ answer = Decimal.write v desk.resolver.limits.digits

/-- **An explanation in sight belongs to the answer to the last question**, in every run that
only the user acts on. -/
theorem shown_explanation_reads_last_question (desk : Desk) (events : List Event)
    (huser : ∀ e ∈ events, e.isUser = true) (d : Explanation)
    (h : (run desk {} events).explanation = some d) :
    ∃ question answer tokens e, Explains desk events d question answer tokens e := by
  have hreflects := reflects_run desk events
  -- The explanation in sight is that of the last reply, so there is one.
  obtain ⟨r, hlast, hexplanation⟩ := Option.bind_eq_some_iff.mp (hreflects.explanation ▸ h)
  obtain ⟨question, answer, rfl⟩ := Reply.eq_answered_of_explanation hexplanation
  obtain ⟨typed, hreply⟩ := mem_repliesSinceClear huser _ (List.mem_of_getLast? hlast)
  obtain ⟨hquestion, hresolve, hexplain⟩ := Desk.of_reply_explained hreply.symm
  have htrim : Text.trim question.toList = question.toList := by
    rw [hquestion, Text.toList_trimmed, Text.trim_trim]
  obtain ⟨-, tokens, e, hread, htexts⟩ := Calculation.explain_eq_ok_iff.mp hexplain
  rw [htrim] at hread
  have hshown : (run desk {} events).answer = answer := by
    obtain ⟨front, hfront⟩ := List.getLast?_eq_some_iff.mp hlast
    rw [hreflects.answer, hfront]
    simp [Reply.answer?]
  have hnoError : (run desk {} events).errorLine = "" := by
    rw [hreflects.errorLine, hlast]
    rfl
  refine ⟨question, answer, tokens, e, hlast, hreflects.history _ hlast, hshown, hnoError,
    hexplain, hread, htexts, ?_⟩
  refine (Resolver.known_or_calculated_of_resolve_ok hresolve).imp_right ?_
  rintro ⟨hmiss, hanswer⟩
  rw [htrim] at hanswer
  -- The answer and the explanation come from one reading.
  obtain ⟨tokens', e', v, hread', hv, hwrite⟩ := Calculation.exists_evaluate_of_answer hanswer
  rw [hread] at hread'
  cases hread'
  exact ⟨hmiss, v, hv, hwrite⟩

/-- ` 1/4+2 ` is answered by `2.25`, and its explanation belongs to that answer. -/
theorem quotient_sum_explained :
    let desk := Desk.ofTable (Table.read "2+2=quatre").1 {}
    let events : List Event := [.type "2+2", .click .ask, .type " 1/4+2 ", .frame, .click .ask]
    (∀ e ∈ events, e.isUser = true) ∧
      (run desk {} events).explanation = some ⟨"1 / 4 + 2", "((1 / 4) + 2)"⟩ ∧
      ∃ question answer tokens e,
        Explains desk events ⟨"1 / 4 + 2", "((1 / 4) + 2)"⟩ question answer tokens e := by
  intro desk events
  have huser : ∀ e ∈ events, e.isUser = true := by decide
  have hshown : (run desk {} events).explanation = some ⟨"1 / 4 + 2", "((1 / 4) + 2)"⟩ := by
    decide +kernel
  exact ⟨huser, hshown, shown_explanation_reads_last_question desk events huser _ hshown⟩

/-- The table knows `2+2`, and `quatre` is no value. The window explains the sum all the
same, next to an answer that it does not have. -/
theorem known_answer_explained :
    let desk := Desk.ofTable (Table.read "2+2=quatre").1 {}
    let w := run desk {} [.type "2+2", .click .ask]
    desk.resolver.lookup (Table.key "2+2".toList) = some "quatre" ∧
      w.explanation = some ⟨"2 + 2", "(2 + 2)"⟩ ∧
      w.history.getLast? = some ⟨"2+2", .answered "quatre"⟩ ∧ w.answer = "quatre" ∧
      Calculation.answer desk.resolver.limits "2+2".toList = .ok "4" := by
  decide +kernel

end Window

end AnswerDesk
