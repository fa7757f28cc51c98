import AnswerDesk.Proofs.Resolver
import AnswerDesk.Proofs.Text.Normal

/-!
# `AnswerDesk.Proofs.Resolver.Asked`: how the known questions are asked

What knows the answers to known questions may be anything that takes a key: a table, a program,
something that counts. So the question is not only which answer comes back, but also what is
done with it on the way. `resolveWith_eq_map` (`Proofs.Resolver`) says all of it for any monad. A
question that is not blank asks once, before anything else, and what is done afterwards has no
effect of its own.

Two special cases make this visible. With `recorded`, the keys that were asked are written down.
With a plain lookup, an answer stands whatever the question looks like.

The key is made from the trimmed question, as is everything that comes later. So blanks around a
question change nothing at all (`resolveWith_padded`).
-/

set_option autoImplicit false

namespace AnswerDesk

open Text (isBlank trim lowercase)

section
variable {m : Type → Type} [Monad m]

/-- Blanks around a question change nothing. -/
theorem resolveWith_padded (ask : String → m (Option String)) (limits : Limits)
    (question : String) {front back : String} (hfront : ∀ c ∈ front.toList, isBlank c = true)
    (hback : ∀ c ∈ back.toList, isBlank c = true) :
    resolveWith ask limits (front ++ question ++ back) = resolveWith ask limits question := by
  rw [resolveWith, resolveWith, String.toList_append, String.toList_append,
    Text.trim_padded hfront hback]

end

/-! ### A record of what is asked -/

/-- Known questions with a record of the keys that they were asked for. -/
def recorded (lookup : String → Option String) (key : String) :
    StateM (List String) (Option String) := do
  modify (· ++ [key])
  return lookup key

namespace Resolver

/-- Keeping a record changes no answer. It has the key of the question in it, if it is not
blank, and no other. -/
theorem run_resolveWith_recorded (lookup : String → Option String) (limits : Limits)
    (question : String) (record : List String) :
    (resolveWith (recorded lookup) limits question).run record
      = (resolve ⟨lookup, limits⟩ question,
          record ++ if trim question.toList = [] then []
            else [String.ofList (lowercase (trim question.toList))]) := by
  by_cases hblank : trim question.toList = []
  · rw [resolveWith_of_blank _ _ hblank, resolve_of_blank hblank, if_pos hblank, List.append_nil]
    rfl
  · rw [resolve, resolveWith_eq_map _ _ hblank, resolveWith_eq_map _ _ hblank, if_neg hblank]
    rfl

/-- Questions with one key are both blank, or both known with one answer, or both unknown. -/
theorem resolve_of_same_key (r : Resolver) {question other : String}
    (hkey : lowercase (trim other.toList) = lowercase (trim question.toList)) :
    (r.resolve question = .error .emptyQuestion ∧ r.resolve other = .error .emptyQuestion) ∨
    (∃ a, r.lookup (String.ofList (lowercase (trim question.toList))) = some a ∧
      r.resolve question = .ok a ∧ r.resolve other = .ok a) ∨
    (r.lookup (String.ofList (lowercase (trim question.toList))) = none ∧
      r.resolve question = Calculation.answer r.limits (trim question.toList) ∧
      r.resolve other = Calculation.answer r.limits (trim other.toList)) := by
  -- A key is empty for blank questions only.
  have hboth : trim other.toList = [] ↔ trim question.toList = [] := by
    rw [← Text.lowercase_eq_nil_iff, hkey, Text.lowercase_eq_nil_iff]
  by_cases hblank : trim question.toList = []
  · exact .inl ⟨resolve_of_blank hblank, resolve_of_blank (hboth.mpr hblank)⟩
  · have hother : trim other.toList ≠ [] := fun h => hblank (hboth.mp h)
    cases hlookup : r.lookup (String.ofList (lowercase (trim question.toList))) with
    | some a =>
        have hhit := resolve_of_hit hother (by rwa [hkey])
        exact .inr (.inl ⟨a, rfl, resolve_of_hit hblank hlookup, hhit⟩)
    | none =>
        have hmiss := resolve_of_miss hother (by rwa [hkey])
        exact .inr (.inr ⟨rfl, resolve_of_miss hblank hlookup, hmiss⟩)

/-- **The known questions are asked once, first, and have the last word.** A blank question asks
nothing. Any other question asks for its lowercase, trimmed, before it is looked at or measured.
This is its only effect, in any monad. A record of the keys therefore has this one in it. An
answer stands as it is, whatever the question looks like. So blanks around a question change
nothing, and questions with one key are known or unknown together. -/
theorem known_questions_asked_once_and_first (limits : Limits) (question : String) :
    let cs := trim question.toList
    let key := String.ofList (lowercase cs)
    (∀ (m : Type → Type) [Monad m] [LawfulMonad m] (ask : String → m (Option String)),
      (cs = [] → resolveWith ask limits question = pure (.error .emptyQuestion)) ∧
      (cs ≠ [] → resolveWith ask limits question = settled limits cs <$> ask key)) ∧
    ∀ lookup : String → Option String,
      let r : Resolver := ⟨lookup, limits⟩
      (∀ record, (resolveWith (recorded lookup) limits question).run record
        = (r.resolve question, record ++ if cs = [] then [] else [key])) ∧
      (cs ≠ [] → ∀ a, lookup key = some a → r.resolve question = .ok a) ∧
      (∀ front back : String, (∀ c ∈ front.toList, isBlank c = true) →
        (∀ c ∈ back.toList, isBlank c = true) →
          r.resolve (front ++ question ++ back) = r.resolve question) ∧
      (∀ other : String, lowercase (trim other.toList) = lowercase cs →
        (r.resolve question = .error .emptyQuestion ∧ r.resolve other = .error .emptyQuestion) ∨
        (∃ a, lookup key = some a ∧ r.resolve question = .ok a ∧ r.resolve other = .ok a) ∨
        (lookup key = none ∧ r.resolve question = Calculation.answer limits cs ∧
          r.resolve other = Calculation.answer limits (trim other.toList))) := by
  intro cs key
  refine ⟨fun m _ _ ask => ⟨resolveWith_of_blank ask limits, resolveWith_eq_map ask limits⟩, ?_⟩
  intro lookup r
  refine ⟨run_resolveWith_recorded lookup limits question, ?_, ?_, ?_⟩
  · exact fun hblank a hhit => resolve_of_hit hblank hhit
  · exact fun front back hfront hback => resolveWith_padded _ limits question hfront hback
  · exact fun other hkey => resolve_of_same_key r hkey

/-- The known answer to `à 1/0` is given for ` À 1/0` as well, although that is no calculation and
no length is allowed for one. The record has the one key in it. -/
theorem division_by_zero_known :
    let lookup : String → Option String := fun key => if key = "à 1/0" then some "rien" else none
    let limits : Limits := { length := 0 }
    resolve ⟨lookup, limits⟩ " À 1/0" = .ok "rien" ∧
    resolve ⟨lookup, limits⟩ "\u00a0 À 1/0\n" = .ok "rien" ∧
    (resolveWith (recorded lookup) limits " À 1/0").run [] = (.ok "rien", ["à 1/0"]) := by
  intro lookup limits
  obtain ⟨-, hlookup⟩ := known_questions_asked_once_and_first limits " À 1/0"
  obtain ⟨hrecord, hhit, hpadded, -⟩ := hlookup lookup
  have hblank : trim " À 1/0".toList ≠ [] := by decide +kernel
  have hkey : String.ofList (lowercase (trim " À 1/0".toList)) = "à 1/0" := by decide +kernel
  have hanswer := hhit hblank "rien" (by rw [hkey]; rfl)
  refine ⟨hanswer, ?_, ?_⟩
  · have hfront : ∀ c ∈ "\u00a0".toList, isBlank c = true := List.all_eq_true.mp (by decide)
    have hback : ∀ c ∈ "\n".toList, isBlank c = true := List.all_eq_true.mp (by decide)
    exact (hpadded "\u00a0" "\n" hfront hback).trans hanswer
  · rw [hrecord, hanswer, if_neg hblank, hkey]
    rfl

end Resolver

end AnswerDesk
