/-!
# `AnswerDesk.Journal`: what the desk reports about its work

An operation that reports something returns journal entries, oldest first, beside
its result. An entry has a level and a topic, which a reader of the journal can
select by (`AnswerDesk.Journal.Filter`).
-/

set_option autoImplicit false

namespace AnswerDesk.Journal

/-- How much an entry matters, most important first. -/
inductive Level where
  | error
  | warn
  | info
  | debug
  | trace
  deriving Repr, DecidableEq

namespace Level

/-- All levels, most important first. -/
def all : List Level := [.error, .warn, .info, .debug, .trace]

def name : Level → String
  | .error => "error"
  | .warn => "warn"
  | .info => "info"
  | .debug => "debug"
  | .trace => "trace"

/-- The place of the level, from one for the most important. -/
def rank : Level → Nat
  | .error => 1
  | .warn => 2
  | .info => 3
  | .debug => 4
  | .trace => 5

end Level

/-- The part of the desk that reports. -/
inductive Topic where
  | program
  | settings
  | questions
  | window
  deriving Repr, DecidableEq

/-- The name of a topic in the journal. -/
def Topic.name : Topic → String
  | .program => "robobob"
  | .settings => "robobob::config"
  | .questions => "robobob::questions"
  | .window => "robobob::app::vue"

/-- One report. -/
structure Entry where
  level : Level
  topic : Topic
  message : String
  deriving Repr, DecidableEq

end AnswerDesk.Journal
