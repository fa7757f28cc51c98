import AnswerDesk.Journal
import AnswerDesk.Text.Blank
import AnswerDesk.Text.Lines
import AnswerDesk.Text.Lowercase
import Std.Data.ExtTreeMap

/-!
# `AnswerDesk.Table`: the known questions

A table is written as lines `question=answer`. The key of a question is the question
trimmed and in lowercase, and the answer is trimmed. Blank lines say nothing. A line
without exactly one `=` is malformed and left out, with a warning. When a key comes
again, the later answer stands, with a warning too.

The keys are kept in the order of their code points.
-/

set_option autoImplicit false

namespace AnswerDesk

/-- The answers to the known questions, by key. -/
structure Table where
  answers : Std.ExtTreeMap String String

namespace Table

open Journal (Entry)

/-- The key under which a question is known. -/
def key (question : List Char) : String :=
  String.ofList (Text.lowercase (Text.trim question))

/-- The table that knows nothing. -/
def empty : Table := ⟨∅⟩

/-- The answer stored under a key. -/
def lookup (t : Table) (key : String) : Option String :=
  t.answers[key]?

/-- The answer to a question, in whatever case, with blanks around it. -/
def answer (t : Table) (question : String) : Option String :=
  t.lookup (key question.toList)

/-- The keys, in the order of their code points. -/
def questions (t : Table) : List String :=
  t.answers.keys

/-- The number of keys. -/
def size (t : Table) : Nat :=
  t.answers.size

/-- Stores an answer, in place of the one that the key may have had. -/
def insert (t : Table) (key answer : String) : Table :=
  ⟨t.answers.insert key answer⟩

/-! ### Reading -/

/-- What a line of a table says. -/
inductive Line where
  | blank
  | malformed
  | entry (key answer : String)
  deriving Repr, DecidableEq

/-- What these characters say as a line of a table. -/
def Line.ofChars (line : List Char) : Line :=
  if (Text.trim line).isEmpty then .blank
  else match line.splitOn '=' with
    | [question, answer] => .entry (key question) (String.ofList (Text.trim answer))
    | _ => .malformed

/-- A table that is being read, with what was reported so far, newest first. -/
structure Reading where
  table : Table
  reports : List Entry

/-- Takes in a line and its number. -/
def Reading.line (r : Reading) (line : List Char) (number : Nat) : Reading :=
  match Line.ofChars line with
  | .blank => r
  | .malformed =>
    let shown := String.ofList line
    { r with reports :=
        ⟨.warn, .questions,
          s!"ligne {number} ignorée (format question=réponse attendu) : '{shown}'"⟩ ::
        r.reports }
  | .entry key answer =>
    let loaded : Entry := ⟨.debug, .questions, s!"question chargée : '{key}' = '{answer}'"⟩
    let reports := match r.table.lookup key with
      | none => [loaded]
      | some old =>
        [⟨.warn, .questions, s!"question '{key}' en double, '{old}' remplacée"⟩, loaded]
    { table := r.table.insert key answer, reports := reports ++ r.reports }

/-- The table that a text holds, and what there is to report about its lines. Lines
are numbered from one, blank ones included. -/
def read (content : String) : Table × List Entry :=
  let r := ((Text.lines content.toList).zipIdx 1).foldl
    (fun r (line, number) => Reading.line r line number) ⟨empty, []⟩
  (r.table, r.reports.reverse)

/-- The report that a table is about to be read. -/
def opening (origin : String) : Entry :=
  ⟨.info, .questions, s!"chargement de la table {origin}"⟩

/-- Reads a table between two reports: where it comes from, and how many questions it
holds. -/
def load (origin content : String) : Table × List Entry :=
  let (table, reports) := read content
  (table, opening origin :: reports ++
    [⟨.info, .questions, s!"{table.size} question(s) chargée(s)"⟩])

/-- The questions that are known when no other table is asked for. -/
def builtinContent : String :=
  "What is your name=RoboBob\n" ++
  "What do you do=I help children learn math\n" ++
  "Where are you from=I am from the RoboWorld\n"

/-- The table of these questions. -/
def builtin : Table × List Entry :=
  load "embarquée" builtinContent

end Table

end AnswerDesk
