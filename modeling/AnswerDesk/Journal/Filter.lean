import AnswerDesk.Journal
import AnswerDesk.Pattern.Reader

/-!
# `AnswerDesk.Journal.Filter`: which entries are shown

A filter is written as directives, with a slash and a pattern behind them if the
messages are to be looked at too. Without a pattern all messages will do. A pattern
that cannot be read is left out, while a second slash spoils the whole filter.

Directives stand between commas. Each is a level, `topic=level`, or a topic alone,
which stands for all its levels. Those that are none of these, and empty ones, are left
out. Of two directives about one topic the later one holds. A filter without a usable
directive shows errors only.

A directive about a topic is also about the topics whose names start with its name. Of
the directives that are about the topic of an entry, the one with the longest name
decides, and a level without a topic counts as the shortest name. Without such a
directive the entry is not shown.
-/

set_option autoImplicit false

namespace AnswerDesk.Journal

/-- What to show of the topics whose names start with `topic`, or of all topics: the
entries down to `level`, or none at all. -/
structure Directive where
  topic : Option (List Char)
  level : Option Level
  deriving Repr, DecidableEq

/-- Directives about different topics, those with shorter names first, and a pattern
that is to occur in messages. -/
structure Filter where
  directives : List Directive
  pattern : Option Pattern := none
  deriving Repr, DecidableEq

/-- The level that a word names, in whatever case; `off` names none at all. -/
def level? (word : List Char) : Option (Option Level) :=
  let name := String.ofList (word.map Char.toLower)
  if name = "off" then some none
  else (Level.all.find? (·.name = name)).map some

/-- The directive that a part of a filter holds. -/
def Directive.ofChars? (part : List Char) : Option Directive :=
  match part.splitOn '=' with
  | [word] => match level? word with
    | some level => some ⟨none, level⟩
    | none => some ⟨some word, some .trace⟩
  | [topic, word] => match Text.trim word with
    | [] => some ⟨some topic, some .trace⟩
    | c :: cs => (level? (c :: cs)).map fun level => ⟨some topic, level⟩
  | _ => none

/-- The length of the name that the directive is about. -/
def Directive.reach (d : Directive) : Nat :=
  (d.topic.getD []).length

/-- The directive is about this topic. -/
def Directive.covers (d : Directive) (topic : Topic) : Bool :=
  (d.topic.getD []).isPrefixOf topic.name.toList

namespace Filter

/-- Adds a directive, in the place of the one about the same topic if there is one. -/
def add (d : Directive) : List Directive → List Directive
  | [] => [d]
  | d' :: rest => if d'.topic = d.topic then d :: rest else d' :: add d rest

/-- The directives that a text holds. -/
def readDirectives (text : List Char) : List Directive :=
  let parts := (text.splitOn ',').map Text.trim
  let directives := (parts.filter (!·.isEmpty)).filterMap Directive.ofChars?
  directives.foldl (fun all d => add d all) []

/-- The filter of these directives and this pattern. -/
def ofDirectives (directives : List Directive) (pattern : Option Pattern) : Filter :=
  match directives with
  | [] => ⟨[⟨none, some .error⟩], pattern⟩
  | _ :: _ => ⟨directives.mergeSort (fun a b => a.reach ≤ b.reach), pattern⟩

/-- The filter that a text holds. -/
def read (text : String) : Filter :=
  match text.toList.splitOn '/' with
  | [directives] => ofDirectives (readDirectives directives) none
  | [directives, pattern] => ofDirectives (readDirectives directives) (Pattern.read? pattern)
  | _ => ofDirectives [] none

/-- The filter when none is given: everything down to information. -/
def default : Filter := ⟨[⟨none, some .info⟩], none⟩

/-- The directives let the entry through. -/
def admits (filter : Filter) (entry : Entry) : Bool :=
  match filter.directives.reverse.find? (·.covers entry.topic) with
  | none => false
  | some d => d.level.any fun level => entry.level.rank ≤ level.rank

/-- The filter shows the entry. -/
def shows (filter : Filter) (entry : Entry) : Bool :=
  filter.admits entry && filter.pattern.all (·.occursIn entry.message.toList)

end Filter

end AnswerDesk.Journal
