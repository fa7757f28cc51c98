import AnswerDesk.Text.Lines
import Mathlib.Data.List.Basic

/-!
# `AnswerDesk.Proofs.Text.Lines`: texts that are made of lines

There is no line feed in a line (`not_mem_of_mem_lines`). Lines that are joined by line feeds are
read back as they are (`lines_intercalate`), under two conditions. None may end in a carriage return,
which would be taken for a part of the end of the line. And none may be empty, since an empty line at
the end is not seen.
-/

set_option autoImplicit false

namespace AnswerDesk.Text

/-- The parts of a split do not have the separator in them. Induction on the length of the text: the
parts behind the first separator are those of a shorter text. -/
theorem not_mem_of_mem_splitOn {cs part : List Char} {c : Char} (h : part ∈ cs.splitOn c) :
    c ∉ part := by
  induction hlength : cs.length using Nat.strongRecOn generalizing cs with
  | ind n ih =>
      by_cases hc : c ∈ cs
      · obtain ⟨us, vs, rfl, hus⟩ := List.eq_append_cons_of_mem hc
        rw [List.splitOn_append_cons_self_of_not_mem hus] at h
        rcases List.mem_cons.mp h with rfl | h
        · exact hus
        · refine ih vs.length ?_ h rfl
          rw [← hlength, List.length_append, List.length_cons]
          omega
      · rw [List.splitOn_eq_singleton hc, List.mem_singleton] at h
        rwa [h]

/-- A line is a part between line feeds, perhaps without a carriage return at its end. -/
theorem exists_splitOn_of_mem_lines {cs line : List Char} (h : line ∈ lines cs) :
    ∃ part ∈ cs.splitOn '\n', line <+: part := by
  have hended : line ∈ (cs.splitOn '\n').dropLast.map dropFinalReturn →
      ∃ part ∈ cs.splitOn '\n', line <+: part := by
    intro hmem
    obtain ⟨part, hpart, rfl⟩ := List.mem_map.mp hmem
    refine ⟨part, (List.dropLast_prefix _).mem hpart, ?_⟩
    unfold dropFinalReturn
    split
    · exact List.dropLast_prefix part
    · exact List.prefix_refl part
  unfold lines at h
  simp only at h
  split at h
  · exact hended h
  · exact hended h
  · rename_i c rest hlast
    rcases List.mem_append.mp h with h | h
    · exact hended h
    · -- The last line stands as it is.
      rw [List.mem_singleton.mp h]
      exact ⟨c :: rest, List.mem_of_getLast? hlast, List.prefix_refl _⟩

/-- **There is no line feed in a line.** -/
theorem not_mem_of_mem_lines {cs line : List Char} (h : line ∈ lines cs) : '\n' ∉ line := by
  obtain ⟨part, hpart, hstart⟩ := exists_splitOn_of_mem_lines h
  exact fun hmem => not_mem_of_mem_splitOn hpart (hstart.mem hmem)

/-- **Lines that are joined by line feeds are read back.** -/
theorem lines_intercalate {ls : List (List Char)} (hfeed : ∀ l ∈ ls, '\n' ∉ l)
    (hreturn : ∀ l ∈ ls, l.getLast? ≠ some '\r') (hne : ∀ l ∈ ls, l ≠ []) :
    lines (['\n'].intercalate ls) = ls := by
  obtain rfl | ⟨init, last, rfl⟩ := List.eq_nil_or_concat ls
  · rfl
  · have hinit : init.map dropFinalReturn = init := by
      conv_rhs => rw [← List.map_id init]
      exact List.map_congr_left fun l hl => if_neg (hreturn l (by simp [hl]))
    obtain ⟨c, rest, rfl⟩ := List.exists_cons_of_ne_nil (hne last (by simp))
    unfold lines
    rw [List.splitOn_intercalate '\n' hfeed (by simp)]
    simp [hinit]

end AnswerDesk.Text
