import AnswerDesk.Toml.Quoted
import AnswerDesk.Toml.Scalar

/-!
# `AnswerDesk.Toml.Document`: reading a TOML document

A document is a sequence of statements, one a line: `key = value`, a header `[path]`
of a table, or a header `[[path]]` of one more table of an array. Values may extend
over several lines inside strings and arrays.

Arrays and tables in braces nest to a depth of `maxNesting` at most, and a dotted key
has at most that many parts. The recursion in `value` is on the depth that is left.

A document that breaks a rule anywhere has no content at all, and the first fault is
what its reader returns. For each key of the document itself there is a place that a
report on its value points to (`Place`).
-/

set_option autoImplicit false

namespace AnswerDesk.Toml

/-- The largest depth of values inside values, and the largest number of parts of a
dotted key. -/
def maxNesting : Nat := 79

/-- Characters of a document, given by what is left of it at both ends. -/
structure Place where
  start : List Char
  stop : List Char

/-! ### Keys -/

/-- A key: the path to its table, and its own name there. -/
structure Key where
  path : List String
  name : String
  /-- The first part of the key as it is written. -/
  first : Place

/-- The first part of the key. -/
def Key.head (k : Key) : String := k.path.headD k.name

/-- One part of a key: bare, or a string on one line. -/
def simpleKey (s : List Char) : Reading String s :=
  let fault : Fault := { rest := s, part := some .key, begun := false }
  match s with
  | '"' :: r => (Quotes.basic.text r).behind '"'
  | '\'' :: r => (Quotes.literal.text r).behind '\''
  | c :: r =>
    if isBareKeyChar c then
      return ⟨String.ofList (c :: r.takeWhile isBareKeyChar), r.dropWhile isBareKeyChar,
        Nat.lt_succ_of_le (length_dropWhile_le isBareKeyChar r)⟩
    else
      throw fault
  | [] => throw fault

/-- What is left behind a part of a key and the blanks around it is shorter than the text. -/
theorem length_lt_of_part {s t : List Char} {part : Got String (skipBlanks s)}
    (h : skipBlanks part.rest = t) : t.length < s.length := by
  have hs : (skipBlanks s).length ≤ s.length := length_dropWhile_le isBlank s
  have ht : (skipBlanks part.rest).length ≤ part.rest.length :=
    length_dropWhile_le isBlank part.rest
  have hpart := part.shorter
  rw [h] at ht
  omega

/-- The parts of a key that points join, with blanks around each. A point without a part
behind it does not belong to the key. -/
def keyParts (s : List Char) : Reading (List String × Place) s :=
  match simpleKey (skipBlanks s) with
  | .error fault => throw fault
  | .ok part =>
    let place : Place := ⟨skipBlanks s, part.rest⟩
    match h : skipBlanks part.rest with
    | '.' :: r =>
      have hr : r.length < s.length := Nat.lt_of_succ_lt (length_lt_of_part h)
      match keyParts r with
      | .ok more =>
        return more.map (fun (parts, _) => (part.value :: parts, place)) (Nat.le_of_lt hr)
      | .error fault =>
        if fault.begun then throw fault
        else return ⟨([part.value], place), '.' :: r, length_lt_of_part h⟩
    | rest => return ⟨([part.value], place), rest, length_lt_of_part h⟩
termination_by s.length

/-- The key in front, with the blanks around it. -/
def key (s : List Char) : Reading Key s := do
  let parts ← keyParts s
  if maxNesting < parts.value.1.length then
    throw { rest := s, problem := some .tooDeep, begun := false }
  return parts.mapValue fun (path, place) => ⟨path.dropLast, path.getLastD "", place⟩

/-! ### Values -/

/-- A key with its value, and where that is. -/
structure Pair where
  key : Key
  value : Value
  place : Place

/-- What a fault lacks that may stand between a key and its value. -/
def noEquals (s : List Char) : Fault := { rest := s, expected := ["`.`", "`=`"] }

/-- A key, a value and the equals sign between them, with blanks around the value. -/
def pair (value : (s : List Char) → Reading Value s) (s : List Char) : Reading Pair s :=
  match key s with
  | .error fault => throw fault
  | .ok k =>
    match h : k.rest with
    | '=' :: r =>
      match value (skipBlanks r) with
      | .error fault => throw fault.settled
      | .ok v =>
        return ⟨⟨k.value, v.value, ⟨skipBlanks r, v.rest⟩⟩, skipBlanks v.rest, by
          have := k.shorter
          have := v.shorter
          have : (skipBlanks r).length ≤ r.length := length_dropWhile_le isBlank r
          have : (skipBlanks v.rest).length ≤ v.rest.length :=
            length_dropWhile_le isBlank v.rest
          simp [h] at *
          omega⟩
    | rest => throw (noEquals rest)

/-- An array that does not end where it has to. -/
def unclosedArray (s : List Char) : Fault :=
  { rest := s, part := some .array, expected := ["`]`"] }

/-- A line that does not end where it has to: behind a comment, or because a carriage
return stands alone. -/
def brokenLine? (s : List Char) : Option Fault :=
  match s with
  | '#' :: _ => some { rest := skipComment s }
  | '\x0d' :: r => some { rest := r }
  | _ => none

/-- What follows the character behind an item is shorter than the text was. -/
theorem length_lt_of_item {α : Type} {s front r : List Char} {c : Char} {item : Got α front}
    (h : skipLayout s = front) (h' : skipLayout item.rest = c :: r) :
    r.length < s.length := by
  have hle := length_skipLayout_le s
  have hlt := length_lt_of_skipLayout h'
  have hitem := item.shorter
  rw [h] at hle
  omega

/-- The items of an array, read after its opening bracket up to its closing one. A
comma may follow the last item. -/
def items (value : (s : List Char) → Reading Value s) (s : List Char) :
    Reading (List Value) s :=
  match h : skipLayout s with
  | ']' :: r => return ⟨[], r, length_lt_of_skipLayout h⟩
  | front =>
    match brokenLine? front, value front with
    | some fault, _ => throw fault
    | none, .error fault => throw (if fault.begun then fault else unclosedArray front)
    | none, .ok first =>
      match h' : skipLayout first.rest with
      | ']' :: r => return ⟨[first.value], r, length_lt_of_item h h'⟩
      | ',' :: r =>
        have hr : r.length < s.length := length_lt_of_item h h'
        (items value r).map (first.value :: ·) (Nat.le_of_lt hr)
      | rest =>
        throw (unclosedArray (if (brokenLine? rest).isSome then front else rest))
termination_by s.length

/-- The pairs of a table in braces, from the first one on. A comma without a pair behind
it does not belong to them. -/
def pairs (value : (s : List Char) → Reading Value s) (s : List Char) :
    Reading (List Pair) s :=
  match pair value s with
  | .error fault => throw fault
  | .ok first =>
    match h : first.rest with
    | ',' :: r =>
      have hr : r.length < s.length := Nat.lt_of_succ_lt (Got.length_lt_of_rest h)
      match pairs value r with
      | .ok more => return more.map (first.value :: ·) (Nat.le_of_lt hr)
      | .error fault =>
        if fault.begun then throw fault
        else return ⟨[first.value], ',' :: r, Got.length_lt_of_rest h⟩
    | rest => return ⟨[first.value], rest, Got.length_lt_of_rest h⟩
termination_by s.length

/-- The content of a table in braces. The fault is found at `place`. -/
def entriesInBraces (place : List Char) (pairs : List Pair) : Except Fault Entries :=
  (pairs.foldlM (fun entries (p : Pair) =>
    Entries.addPair .inBraces none p.key.path p.key.name p.value entries) []).mapError
    fun problem => { rest := place, problem := some problem }

/-- A table in braces that does not end where it has to. -/
def unclosedBraces (s : List Char) : Fault :=
  { rest := s, part := some .braces, expected := ["`\x7d`"] }

/-- A table in braces, read after its opening brace. -/
def braces (value : (s : List Char) → Reading Value s) (s : List Char) : Reading Value s :=
  have hs : (skipBlanks s).length ≤ s.length := length_dropWhile_le isBlank s
  match pairs value (skipBlanks s) with
  | .error fault =>
    if fault.begun then throw fault
    else match h : skipBlanks s with
      | '\x7d' :: r => return ⟨.table .braces [], r, by simp [h] at hs; omega⟩
      | rest => throw (unclosedBraces rest)
  | .ok pairs => do
    let entries ← entriesInBraces s pairs.value
    match h : pairs.rest with
    | '\x7d' :: r => return ⟨.table .braces entries, r, by
        have := pairs.shorter
        simp [h] at this
        omega⟩
    | rest => throw (unclosedBraces rest)

/-- The value in front, inside which `room` more values may nest. -/
def value (room : Nat) : (s : List Char) → Reading Value s := fun s =>
  match s, room with
  | '[' :: r, room + 1 => ((items (value room) r).mapValue .array).behind '['
  | '\x7b' :: r, room + 1 => (braces (value room) r).behind '\x7b'
  | '[' :: _, 0 => throw { rest := s, problem := some .tooDeep }
  | '\x7b' :: _, 0 => throw { rest := s, problem := some .tooDeep }
  | '"' :: r, _ => (quoted '"' r).mapValue .string
  | '\'' :: r, _ => (quoted '\'' r).mapValue .string
  | s, _ => Scalar.read s

/-! ### Statements -/

/-- What a statement says. -/
inductive Statement where
  | blank
  | pair (pair : Pair)
  | tableHeader (key : Key) (place : Place)
  | elementHeader (key : Key) (place : Place)

/-- What a report calls the statement, if it names it. -/
def Statement.part? : Statement → Option Part
  | .blank => none
  | .pair _ => none
  | .tableHeader .. => some .tableHeader
  | .elementHeader .. => some .tableHeader

/-- The key of a header. A report on it names the header, unless it names the key. -/
def headerKey (s : List Char) : Reading Key s :=
  match key s with
  | .error fault => throw { fault with part := fault.part.or (some .tableHeader) }
  | .ok k => return k

/-- A header that does not end where it has to. -/
def unclosedHeader (marks : String) (s : List Char) : Fault :=
  { rest := s, part := some .tableHeader, expected := ["`.`", marks] }

/-- The statement at the front, without what may follow it on its line. -/
def statement (s : List Char) : Reading Statement s :=
  match s with
  | '[' :: '[' :: r =>
    match headerKey r with
    | .error fault => throw fault
    | .ok k =>
      match h : k.rest with
      | ']' :: ']' :: rest => return ⟨.elementHeader k.value ⟨s, rest⟩, rest, by
          have := k.shorter
          simp [h] at *
          omega⟩
      | rest => throw (unclosedHeader "`]]`" rest)
  | ['['] => throw { rest := s, part := some .tableHeader }
  | '[' :: r =>
    match headerKey r with
    | .error fault => throw fault
    | .ok k =>
      match h : k.rest with
      | ']' :: rest => return ⟨.tableHeader k.value ⟨s, rest⟩, rest, by
          have := k.shorter
          simp [h] at *
          omega⟩
      | rest => throw (unclosedHeader "`]`" rest)
  | s => (pair (value maxNesting) s).mapValue .pair

/-- The statement on the line at the front, and the lines after it. -/
def line (s : List Char) (hs : s ≠ []) : Reading Statement s :=
  match h : nextLine? s with
  | some rest => return ⟨.blank, rest, length_lt_of_nextLine? hs h⟩
  | none =>
    have hle : (skipBlanks s).length ≤ s.length := length_dropWhile_le isBlank s
    match skipBlanks s, hle with
    | '#' :: r, _ => throw { rest := skipComment ('#' :: r) }
    | '\x0d' :: r, _ => throw { rest := '\x0d' :: r }
    | front, hle => do
      let found ← statement front
      match h' : nextLine? found.rest with
      | none =>
        let rest := skipComment (skipBlanks found.rest)
        throw { rest, part := found.value.part?, expected := ["newline", "`#`"] }
      | some rest => return ⟨found.value, rest, by
          have := found.shorter
          have := length_le_of_nextLine? h'
          omega⟩

/-! ### Documents -/

/-- The places that reports on values point to, in the order of the keys. -/
abbrev Places := List (String × Place)

namespace Places

/-- Adds a place for a key that has none. -/
def keep (key : String) (place : Place) (places : Places) : Places :=
  if places.any (·.1 = key) then places else places ++ [(key, place)]

/-- Gives a key a new place, behind all others. -/
def move (key : String) (place : Place) (places : Places) : Places :=
  places.filter (·.1 ≠ key) ++ [(key, place)]

/-- Makes the place of a key end elsewhere. -/
def stretch (key : String) (stop : List Char) (places : Places) : Places :=
  places.map fun (k, place) => if k = key then (k, { place with stop }) else (k, place)

end Places

/-- The content of a document. -/
structure Document where
  entries : Entries := []
  /-- A place for each key of the document itself. -/
  places : Places := []

/-- A document that is being read, and the path of the last header. -/
structure Draft where
  document : Document := {}
  path : List String := []

namespace Draft

/-- The content with one more pair, which goes to the table of the last header. -/
def entriesWith (draft : Draft) (p : Pair) : Except Problem Entries :=
  Entries.changeAt .header
    (fun _ inner =>
      Entries.addPair .dotted (some draft.path) p.key.path p.key.name p.value inner)
    [] draft.path .header draft.document.entries

/-- The places with one more pair. A table of the document itself ends where its last pair
does. -/
def placesWith (draft : Draft) (p : Pair) : Places :=
  let places := draft.document.places
  match draft.path with
  | [] => places.keep p.key.head (if p.key.path.isEmpty then p.place else p.key.first)
  | [name] => places.stretch name p.place.stop
  | _ => places

/-- Takes in a statement. -/
def add (draft : Draft) : Statement → Except Problem Draft
  | .blank => return draft
  | .pair p => do
    let entries ← draft.entriesWith p
    return { draft with document := ⟨entries, draft.placesWith p⟩ }
  | .tableHeader k place => do
    let entries ← Entries.openTable k.path k.name draft.document.entries
    let places := draft.document.places
    let places := if k.path.isEmpty then places.move k.name place
      else places.keep k.head k.first
    return ⟨⟨entries, places⟩, k.path ++ [k.name]⟩
  | .elementHeader k place => do
    let entries ← Entries.openElement k.path k.name draft.document.entries
    let places := draft.document.places
    let places := if k.path.isEmpty then (places.keep k.name place).stretch k.name place.stop
      else places.keep k.head k.first
    return ⟨⟨entries, places⟩, k.path ++ [k.name]⟩

/-- Takes in all statements of a text. -/
def addAll (draft : Draft) (s : List Char) : Except Fault Draft :=
  if hs : s = [] then return draft
  else match line s hs with
    | .error fault => throw fault
    | .ok found =>
      have := found.shorter
      match draft.add found.value with
      | .error problem =>
        throw { rest := skipBlanks s, part := found.value.part?, problem := some problem }
      | .ok draft => draft.addAll found.rest
termination_by s.length

end Draft

/-- The content of a document. A byte order mark at its front is left out. -/
def read (document : String) : Except Fault Document := do
  let s := match document.toList with
    | '\ufeff' :: r => r
    | s => s
  return (← Draft.addAll {} s).document

end AnswerDesk.Toml
