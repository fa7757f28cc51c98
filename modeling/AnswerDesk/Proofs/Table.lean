import AnswerDesk.Proofs.Table.Step

/-!
# `AnswerDesk.Proofs.Table`: the keys of a table that was read

A question is looked up by its key, so a stored answer can only be found if it is stored
under the key of some question. `IsKey` says this of a text: making a key of it changes
nothing. A text is a key exactly when it is trimmed and in lowercase (`IsKey.trim_eq`,
`IsKey.lowercase_eq`), and the key of any question is one (`isKey_key`).

`HasKeys` is the invariant of a table that is being read. A line can only add an entry
under the key of a question (`hasKeys_line`), so it holds of every table that was read
(`hasKeys_read`), whatever the text.
-/

set_option autoImplicit false

namespace AnswerDesk.Table

/-! ### Keys -/

/-- The text is a key: it is its own key. -/
def IsKey (k : String) : Prop :=
  key k.toList = k

instance (k : String) : Decidable (IsKey k) :=
  inferInstanceAs (Decidable (_ = _))

theorem toList_key (question : List Char) :
    (key question).toList = Text.lowercase (Text.trim question) := by
  simp [key]

theorem isTrimmed_key (question : List Char) : Text.IsTrimmed (key question).toList := by
  rw [toList_key]
  exact Text.isTrimmed_lowercase (Text.isTrimmed_trim question)

/-- **The key of a question is a key.** -/
theorem isKey_key (question : List Char) : IsKey (key question) := by
  unfold IsKey
  conv_lhs => rw [key]
  rw [Text.trim_of_isTrimmed (isTrimmed_key question), toList_key, Text.lowercase_lowercase]
  rfl

/-- A key is trimmed. -/
theorem IsKey.trim_eq {k : String} (h : IsKey k) : Text.trim k.toList = k.toList := by
  rw [← h]
  exact Text.trim_of_isTrimmed (isTrimmed_key k.toList)

/-- A key is in lowercase. -/
theorem IsKey.lowercase_eq {k : String} (h : IsKey k) : Text.lowercase k.toList = k.toList := by
  rw [← h, toList_key, Text.lowercase_lowercase]

/-! ### The keys of a table -/

theorem lookup_insert (t : Table) (k a k' : String) :
    (t.insert k a).lookup k' = if k = k' then some a else t.lookup k' := by
  simp [lookup, insert, Std.ExtTreeMap.getElem?_insert]

theorem mem_questions_iff {t : Table} {k : String} :
    k ∈ t.questions ↔ ∃ a, t.lookup k = some a := by
  rw [questions, Std.ExtTreeMap.mem_keys, Std.ExtTreeMap.mem_iff_isSome_getElem?,
    Option.isSome_iff_exists]
  rfl

/-- Every answer is stored under a key. -/
def HasKeys (t : Table) : Prop :=
  ∀ k a, t.lookup k = some a → IsKey k

theorem hasKeys_empty : HasKeys empty := by
  intro k a h
  simp [lookup, empty] at h

theorem hasKeys_insert {t : Table} (h : HasKeys t) {k : String} (hk : IsKey k) (a : String) :
    HasKeys (t.insert k a) := by
  intro k' a' hlookup
  rw [lookup_insert] at hlookup
  split at hlookup
  · rename_i heq
    rwa [← heq]
  · exact h k' a' hlookup

/-- What an entry of a line is stored under is a key. -/
theorem Line.Says.isKey {line : List Char} {k a : String} (h : Line.Says line k a) : IsKey k := by
  cases h
  exact isKey_key _

/-- One line keeps the keys. -/
theorem hasKeys_line {r : Reading} (h : HasKeys r.table) (line : List Char) (number : Nat) :
    HasKeys (r.line line number).table := by
  obtain ⟨-, heq⟩ | ⟨k, a, hentry, heq⟩ := r.table_line_cases line number
  · rwa [heq]
  · rw [heq]
    exact hasKeys_insert h hentry.isKey a

/-- **A table that was read has keys only.** -/
theorem hasKeys_read (content : String) : HasKeys (read content).1 := by
  unfold read
  -- The lines are numbered, and the numbers play no part here.
  exact List.foldlRecOn (motive := fun r : Reading => HasKeys r.table) _ _ hasKeys_empty
    (fun _ h p _ => hasKeys_line h p.1 p.2)

end AnswerDesk.Table
