import AnswerDesk.Proofs.Resolver
import AnswerDesk.Proofs.Table
import AnswerDesk.Proofs.Window.Replies

/-!
# `AnswerDesk.Proofs.Window.Known`: the known questions are answered

A window shows the keys of its table as known questions, and a click on one asks it as if it
had been typed. Before it is looked up the question is trimmed twice and put in lowercase.
The keys of a table that was read are trimmed and in lowercase already (`Table.hasKeys_read`),
so the lookup is under the key itself (`resolve_key`).

`known_question_answered` is the main result: in every window over a table that was read, a
click on a known question shows the stored answer, whatever the key looks like and whatever
the limits are. A known answer comes before everything that could fail, with one exception.
A line with nothing in front of `=` is stored under the empty key, and a blank question is
refused before the table is asked (`empty_question_known_but_refused`).
-/

set_option autoImplicit false

namespace AnswerDesk

/-- The resolver answers a key with what is stored under it, unless the key is empty. -/
theorem Resolver.resolve_key {r : Resolver} {k a : String} (hkey : Table.IsKey k) (hne : k ≠ "")
    (h : r.lookup k = some a) : r.resolve k = .ok a := by
  refine resolve_of_hit ?_ ?_
  · rwa [hkey.trim_eq, Ne, String.toList_eq_nil_iff]
  · rwa [hkey.trim_eq, hkey.lowercase_eq, String.ofList_toList]

/-- A known question of a table that was read is one of its keys. -/
theorem Desk.isKey_of_known {content : String} {limits : Limits} {i : Nat} {k : String}
    (h : (Desk.ofTable (Table.read content).1 limits).known[i]? = some k) :
    ∃ a, (Table.read content).1.lookup k = some a ∧ Table.IsKey k := by
  obtain ⟨a, ha⟩ := Table.mem_questions_iff.mp (List.mem_of_getElem? h)
  exact ⟨a, ha, Table.hasKeys_read content k a ha⟩

namespace Window

/-- A click on a known question shows the reply of the desk to it. -/
theorem step_known {desk : Desk} {i : Nat} {k : String} (w : Window)
    (h : desk.known[i]? = some k) :
    (w.step desk (.known i)).1 =
      { w.showReply (desk.reply k) with input := k, focused := true } := by
  simp only [step, h]
  exact ask_eq desk w k

/-- **Every known question is answered**, but for the empty one. Take a window over a table
that was read from any text, with any limits. A click on a known question that is not empty
shows the answer stored under it and no error, and the two are the newest exchange. A click
on the empty question is refused as a blank one, and leaves the answer that was in sight. -/
theorem known_question_answered (content : String) (limits : Limits) (w : Window) (i : Nat)
    (k : String) (hknown : (Desk.ofTable (Table.read content).1 limits).known[i]? = some k) :
    let w' := (w.step (Desk.ofTable (Table.read content).1 limits) (.known i)).1
    (k ≠ "" → ∃ a, (Table.read content).1.lookup k = some a ∧ w'.answer = a ∧
      w'.errorLine = "" ∧ w'.history.getLast? = some ⟨k, .answered a⟩) ∧
    (k = "" → w'.answer = w.answer ∧ w'.errorLine = "question vide" ∧
      w'.history.getLast? = some ⟨"", .failed "question vide"⟩) := by
  obtain ⟨a, hlookup, hkey⟩ := Desk.isKey_of_known hknown
  have htrimmed : Text.trimmed k = k := by
    rw [Text.trimmed, hkey.trim_eq, String.ofList_toList]
  rw [step_known w hknown]
  constructor
  · intro hne
    have hresolve : (Desk.ofTable (Table.read content).1 limits).resolver.resolve
        (Text.trimmed k) = .ok a := by
      rw [htrimmed]
      exact Resolver.resolve_key hkey hne hlookup
    obtain ⟨explanation, hreply⟩ := Desk.exists_reply_of_ok hresolve
    rw [hreply, htrimmed]
    exact ⟨a, hlookup, rfl, rfl, getLast?_remember _ _⟩
  · rintro rfl
    have hresolve : (Desk.ofTable (Table.read content).1 limits).resolver.resolve
        (Text.trimmed "") = .error .emptyQuestion := Resolver.resolve_of_blank rfl
    rw [Desk.reply_of_error hresolve, htrimmed]
    exact ⟨rfl, rfl, getLast?_remember _ _⟩

/-- After a failure, a click on a key that resembles a calculation, with a no-break space in
it, shows the stored answer. -/
theorem known_sum_answered :
    let table := (Table.read " 2+\u00a02 = Quatre \nÉté=chaud").1
    let desk := Desk.ofTable table {}
    let w := run desk {} [.type "1/0", .click .ask]
    let w' := (w.step desk (.known 0)).1
    desk.known[0]? = some "2+\u00a02" ∧ table.lookup "2+\u00a02" = some "Quatre" ∧
      w'.answer = "Quatre" ∧ w'.errorLine = "" ∧
      w'.history.getLast? = some ⟨"2+\u00a02", .answered "Quatre"⟩ := by
  intro table desk w w'
  have hknown : desk.known[0]? = some "2+\u00a02" := by decide +kernel
  have hlookup : table.lookup "2+\u00a02" = some "Quatre" := by decide +kernel
  obtain ⟨a, ha, hshown⟩ := (known_question_answered _ {} w 0 _ hknown).1 (by decide)
  obtain rfl : a = "Quatre" := Option.some.inj (ha.symm.trans hlookup)
  -- The two sides are the same text once the names are replaced, so no step is worked out.
  exact ⟨hknown, hlookup, by simpa only [w', desk, table] using hshown⟩

/-- A line with nothing in front of `=` makes the empty question known. A click on it is
refused, though the table has an answer. -/
theorem empty_question_known_but_refused :
    let desk := Desk.ofTable (Table.read "=x").1 {}
    let w := run desk {} [.known 0]
    desk.known[0]? = some "" ∧ (Table.read "=x").1.lookup "" = some "x" ∧
      w.errorLine = "question vide" ∧ w.answer = "" ∧
      w.history.getLast? = some ⟨"", .failed "question vide"⟩ := by
  decide +kernel

end Window

end AnswerDesk
