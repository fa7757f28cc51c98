import AnswerDesk.Limits
import AnswerDesk.Toml.Document

/-!
# `AnswerDesk.Settings`: what can be set

Settings are a TOML document with four keys, all of them optional: the path of a
table of questions, and the three limits. Other keys say nothing. A limit is an
integer that is not negative, and it is brought under its cap.
-/

set_option autoImplicit false

namespace AnswerDesk

/-- What is set. Without a path, the builtin questions are the known ones. -/
structure Settings where
  questionsPath : Option String := none
  limits : Limits := {}
  deriving Repr, DecidableEq

namespace Settings

open Toml (Fault Problem Value)

/-- A value that has another type than it should, in the words of a report. -/
def shown : Value → String
  | .string text =>
    let text := Text.quote Text.bracedEscape? text
    s!"string {text}"
  | .integer n => s!"integer `{n}`"
  | .float literal =>
    let number := Toml.Number.floatText literal.toList
    s!"floating point `{number}`"
  | .boolean b => s!"boolean `{b}`"
  | .datetime _ => "map"
  | .array _ => "sequence"
  | .table .. => "map"
  | .tables _ => "sequence"

/-- What is wrong with the value of a key, if anything is. -/
def problem? (key : String) (value : Value) : Option Problem :=
  if key = "questions_path" then
    match value with
    | .string _ => none
    | value => some (.wrongType (shown value) "path string")
  else if key = "max_depth" ∨ key = "max_input_len" ∨ key = "digits" then
    match value with
    | .integer (.ofNat _) => none
    | .integer n => some (.wrongValue (shown (.integer n)) "usize")
    | value => some (.wrongType (shown value) "usize")
  else
    none

/-- The first fault of the values of a document. -/
def fault? (document : Toml.Document) : Option Fault :=
  document.places.findSome? fun (key, place) => do
    let problem ← problem? key (← document.entries.get? key)
    return { rest := place.start, stop := place.stop, problem := some problem }

/-- A string at a key. -/
def string? (entries : Toml.Entries) (key : String) : Option String :=
  match entries.get? key with
  | some (.string text) => some text
  | _ => none

/-- A natural number at a key, or the default. -/
def nat (entries : Toml.Entries) (key : String) (default : Nat) : Nat :=
  match entries.get? key with
  | some (.integer (.ofNat n)) => n
  | _ => default

/-- The settings that a document holds, if it is well-formed and every key that has a
meaning has a value of the right kind. -/
def read (text : String) : Except Fault Settings := do
  let document ← Toml.read text
  if let some fault := fault? document then throw fault
  let entries := document.entries
  let unset : Limits := {}
  let depth := nat entries "max_depth" unset.depth
  let length := nat entries "max_input_len" unset.length
  let digits := nat entries "digits" unset.digits
  let questionsPath := string? entries "questions_path"
  return { questionsPath, limits := Limits.capped { depth, length, digits } }

end Settings

end AnswerDesk
