import Mathlib.Data.List.TakeWhile

/-!
# `AnswerDesk.Proofs.Text.Run`: runs of characters of one class

Blanks, digits, and digits with points are all read as runs: `takeWhile` takes the characters in
front that are of the class, and `dropWhile` leaves what is behind them. Where a run ends, a character
of another class stands or the text is at its end (`head?_dropWhile_run`). The other way round, a text
that is a run and goes on so is split there (`takeWhile_run`, `dropWhile_run`).
-/

set_option autoImplicit false

namespace AnswerDesk.Text

variable {p : Char → Bool} {run rest : List Char}

/-- A text that begins with a character of another class is left as it is. -/
theorem dropWhile_eq_self (hrest : ∀ c ∈ rest.head?, p c = false) : rest.dropWhile p = rest := by
  cases rest with
  | nil => rfl
  | cons c rest => simp [hrest c rfl]

/-- A maximal run of characters of one class is what `dropWhile` drops. -/
theorem dropWhile_run (hrun : ∀ c ∈ run, p c = true) (hrest : ∀ c ∈ rest.head?, p c = false) :
    (run ++ rest).dropWhile p = rest := by
  rw [List.dropWhile_append_of_pos hrun, dropWhile_eq_self hrest]

/-- A maximal run of characters of one class is what `takeWhile` takes. -/
theorem takeWhile_run (hrun : ∀ c ∈ run, p c = true) (hrest : ∀ c ∈ rest.head?, p c = false) :
    (run ++ rest).takeWhile p = run := by
  rw [List.takeWhile_append_of_pos hrun]
  cases rest with
  | nil => simp
  | cons c rest => simp [hrest c rfl]

/-- A run ends before a character that is not of its class. -/
theorem head?_dropWhile_run (p : Char → Bool) (cs : List Char) :
    ∀ c ∈ (cs.dropWhile p).head?, p c = false := by
  intro c hc
  have h := List.head?_dropWhile_not p cs
  rw [hc] at h
  simpa using h

end AnswerDesk.Text
