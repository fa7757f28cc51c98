/-!
# `AnswerDesk.Toml.Fault`: why a document cannot be read

A fault is found at a place of a document. It says which part of the grammar should stand
there and what is expected in it, or what is wrong with a part that the grammar allows.

A place is given by what is left of the document there, so a reader that holds the rest
of a text can tell where it is.
-/

set_option autoImplicit false

namespace AnswerDesk.Toml

/-- A part of the grammar that reports name. -/
inductive Part where
  | key
  | tableHeader
  | array
  | braces
  | string
  | basicString
  | literalString
  | basicLines
  | literalLines
  | escape
  | shortCode
  | longCode
  | integer
  | hexadecimal
  | octal
  | binary
  | float
  | datetime
  | time
  | offset
  deriving Repr, DecidableEq

def Part.name : Part → String
  | .key => "key"
  | .tableHeader => "table header"
  | .array => "array"
  | .braces => "inline table"
  | .string => "string"
  | .basicString => "basic string"
  | .literalString => "literal string"
  | .basicLines => "multiline basic string"
  | .literalLines => "multiline literal string"
  | .escape => "escape sequence"
  | .shortCode => "unicode 4-digit hex code"
  | .longCode => "unicode 8-digit hex code"
  | .integer => "integer"
  | .hexadecimal => "hexadecimal integer"
  | .octal => "octal integer"
  | .binary => "binary integer"
  | .float => "floating-point number"
  | .datetime => "date-time"
  | .time => "time"
  | .offset => "time offset"

/-- What is wrong with a part that the grammar allows. -/
inductive Problem where
  /-- The key already has a value, in the table with this path if it is told. -/
  | duplicateKey (key : String) (table : Option (List String))
  /-- The path leads to a value of this kind, which cannot hold more keys. -/
  | noTable (path : List String) (kind : String)
  | outOfRange
  | tooDeep
  | tooLarge
  | tooSmall
  /-- A value of another type is expected. -/
  | wrongType (found expected : String)
  /-- Another value of the type is expected. -/
  | wrongValue (found expected : String)
  deriving Repr, DecidableEq

def Problem.message : Problem → String
  | .duplicateKey key none => s!"duplicate key `{key}`"
  | .duplicateKey key (some []) => s!"duplicate key `{key}` in document root"
  | .duplicateKey key (some path) =>
    let table := ".".intercalate path
    s!"duplicate key `{key}` in table `{table}`"
  | .noTable path kind =>
    let key := ".".intercalate path
    s!"dotted key `{key}` attempted to extend non-table type ({kind})"
  | .outOfRange => "value is out of range"
  | .tooDeep => "recursion limit exceeded"
  | .tooLarge => "number too large to fit in target type"
  | .tooSmall => "number too small to fit in target type"
  | .wrongType found expected => s!"invalid type: {found}, expected {expected}"
  | .wrongValue found expected => s!"invalid value: {found}, expected {expected}"

/-- Why a document cannot be read. -/
structure Fault where
  /-- What is left of the document at the place of the fault. -/
  rest : List Char
  /-- What is left behind the characters that the fault is about. -/
  stop : List Char := rest.tail
  part : Option Part := none
  /-- What may stand at the place, in the words of the report. -/
  expected : List String := []
  problem : Option Problem := none
  /-- The part has begun, so nothing else can stand in its place. -/
  begun : Bool := true
  deriving Repr, DecidableEq

namespace Fault

/-- The fault, where nothing else can stand in place of the part. -/
def settled (f : Fault) : Fault := { f with begun := true }

/-- The lines of the report that say what is wrong. -/
def message (f : Fault) : String :=
  let part := (f.part.map fun part => s!"invalid {part.name}").toList
  let expected := if f.expected.isEmpty then [] else ["expected " ++ ", ".intercalate f.expected]
  let problem := (f.problem.map Problem.message).toList
  "\n".intercalate (part ++ expected ++ problem)

end Fault

end AnswerDesk.Toml
