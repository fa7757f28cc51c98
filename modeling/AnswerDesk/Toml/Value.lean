import AnswerDesk.Text.Quote
import AnswerDesk.Toml.Fault

/-!
# `AnswerDesk.Toml.Value`: the values of a TOML document

A table remembers how it came about, because that decides who may add to it later:
a table written in braces is complete, a table with a header of its own takes no
keys through dotted keys elsewhere, and a table that only a longer header implied
may still get a header.

An array of tables is kept apart from an array of values: headers may add to it.
-/

set_option autoImplicit false

namespace AnswerDesk.Toml

/-- How a table came about. -/
inductive Origin where
  /-- Written in braces. -/
  | braces
  /-- By a header of its own. -/
  | header
  /-- As part of a longer header. -/
  | implied
  /-- As part of a dotted key. -/
  | dotted
  deriving Repr, DecidableEq

/-- A value. Floats and dates are kept as they are written. -/
inductive Value where
  | string (text : String)
  | integer (value : Int)
  | float (literal : String)
  | boolean (value : Bool)
  | datetime (literal : String)
  | array (items : List Value)
  | table (origin : Origin) (entries : List (String × Value))
  /-- An array of tables, the last one first. -/
  | tables (elements : List (List (String × Value)))

/-- What a value is called in a report on a path that leads to it. -/
def Value.kind : Value → String
  | .string _ => "string"
  | .integer _ => "integer"
  | .float _ => "float"
  | .boolean _ => "boolean"
  | .datetime _ => "datetime"
  | .array _ => "array"
  | .table .. => "inline table"
  | .tables _ => "array of tables"

/-- A character that needs no quotes in a key. -/
def isBareKeyChar (c : Char) : Bool :=
  c.isAlphanum || c == '_' || c == '-'

/-- A key as it can be written in a document. -/
def writtenKey (key : String) : String :=
  if key ≠ "" ∧ key.toList.all isBareKeyChar then key
  else Text.quote Text.fourDigitEscape? key

/-- The keys of a table with their values, in the order in which they were written. -/
abbrev Entries := List (String × Value)

namespace Entries

/-- The value of a key. -/
def get? (entries : Entries) (key : String) : Option Value :=
  entries.lookup key

/-- Gives a key a value, in the place that the key has or at the end. -/
def put (key : String) (value : Value) : Entries → Entries
  | [] => [(key, value)]
  | (k, v) :: rest => if k = key then (key, value) :: rest else (k, v) :: put key value rest

/-- What a path is followed for. -/
inductive Purpose where
  /-- A header, or the table that it opened. -/
  | header
  /-- A dotted key. -/
  | dotted
  /-- A dotted key in braces. -/
  | inBraces
  deriving Repr, DecidableEq

/-- What a key of a table leads to, when a path is followed into the table. The path ends
with the key in `path`. -/
def step (purpose : Purpose) (path : List String) (key : String) (entries : Entries) :
    Except Problem (Origin × Entries × (Entries → Value)) :=
  match entries.get? key with
  | none =>
    let origin := if purpose = .header then Origin.implied else .dotted
    return (origin, [], .table origin)
  | some (.table .braces inner) =>
    if purpose = .inBraces then throw (.duplicateKey key none)
    else throw (.noTable path (Value.table .braces inner).kind)
  | some (.table .header inner) =>
    if purpose = .header then return (.header, inner, .table .header)
    else throw (.duplicateKey key none)
  | some (.table origin inner) => return (origin, inner, .table origin)
  | some (.tables (inner :: older)) => return (.header, inner, fun e => .tables (e :: older))
  | some value => throw (.noTable path value.kind)

/-- Changes the table that a path leads to, making the tables that are missing on the
way. The keys before the path are in `before`. -/
def changeAt (purpose : Purpose) (change : Origin → Entries → Except Problem Entries) :
    (before path : List String) → Origin → Entries → Except Problem Entries
  | _, [], origin, entries => change origin entries
  | before, key :: path, _, entries => do
    let before := before ++ [key]
    let (origin, inner, wrap) ← entries.step purpose before key
    let changed ← changeAt purpose change before path origin inner
    return entries.put key (wrap changed)

/-- Adds `key = value` behind the dotted `path`. The key has to be new, and a dotted
path has to end in a table that dotted keys made. A report tells the path of the table
in `told`. -/
def addPair (purpose : Purpose) (told : Option (List String)) (path : List String)
    (key : String) (value : Value) (entries : Entries) : Except Problem Entries :=
  changeAt purpose (fun origin inner =>
    if path ≠ [] ∧ origin ≠ .dotted then throw (.duplicateKey key none)
    else if (inner.get? key).isSome then throw (.duplicateKey key told)
    else return inner.put key value) [] path .header entries

/-- Opens the table of a header: a new one, or one that was only implied so far. -/
def openTable (path : List String) (key : String) (entries : Entries) :
    Except Problem Entries :=
  changeAt .header (fun _ inner =>
    match inner.get? key with
    | none => return inner.put key (.table .header [])
    | some (.table .implied known) => return inner.put key (.table .header known)
    | some _ => throw (.duplicateKey (writtenKey key) (some path))) [] path .header entries

/-- Opens one more table of an array of tables. -/
def openElement (path : List String) (key : String) (entries : Entries) :
    Except Problem Entries :=
  changeAt .header (fun _ inner =>
    match inner.get? key with
    | none => return inner.put key (.tables [[]])
    | some (.tables elements) => return inner.put key (.tables ([] :: elements))
    | some _ => throw (.duplicateKey (writtenKey key) (some path))) [] path .header entries

end Entries

end AnswerDesk.Toml
