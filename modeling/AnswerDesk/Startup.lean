import AnswerDesk.Files
import AnswerDesk.Settings
import AnswerDesk.Table
import AnswerDesk.Toml.Report

/-!
# `AnswerDesk.Startup`: from files to a desk that is ready

The settings come from the file that the environment names, whatever its name is;
else from the file `defaultPath` if there is one; else everything has its default.
The known questions come from the table that the settings name, else they are the
builtin ones.

When the settings or the table cannot be loaded, the desk does not open. The two
failures have exit codes of their own.

Files are read in a monad of the caller's choice (`AnswerDesk.FileAccess`).
-/

set_option autoImplicit false

namespace AnswerDesk

open Journal (Entry)

/-- Why the settings cannot be loaded. -/
inductive SettingsError where
  | unreadable (path : String) (reason : ReadError)
  /-- The document is no settings, for the reason in the report. -/
  | invalid (report : String)
  deriving Repr, DecidableEq

def SettingsError.message : SettingsError → String
  | .unreadable path reason =>
    s!"impossible de lire la configuration '{path}': {reason.message}"
  | .invalid report => s!"configuration invalide : {report}"

/-- Why the table cannot be loaded. -/
inductive TableError where
  | unreadable (path : String) (reason : ReadError)
  deriving Repr, DecidableEq

def TableError.message : TableError → String
  | .unreadable path reason =>
    s!"impossible de lire la table des questions '{path}': {reason.message}"

/-- Why the desk does not open. -/
inductive StartError where
  | settings (e : SettingsError)
  | table (e : TableError)
  deriving Repr, DecidableEq

namespace StartError

def message : StartError → String
  | .settings e => e.message
  | .table e => e.message

/-- The exit code of the program. -/
def exitCode : StartError → UInt32
  | .settings _ => 2
  | .table _ => 1

end StartError

namespace Startup

/-- The variable of the environment that names the file of settings. -/
def pathVariable : String := "ROBOBOB_CONFIG"

/-- The file of settings that is looked for if the environment names none. -/
def defaultPath : String := "robobob.toml"

/-- Where settings are taken from. -/
inductive Source where
  /-- From this file, without a report. -/
  | file (path : String)
  /-- From where they are to be taken, given what the environment says. -/
  | active (chosen : Option String)

/-- What is loaded: the settings, and the known questions. -/
structure Loaded where
  settings : Settings
  table : Table

section

variable {m : Type → Type} [Monad m] (files : FileAccess m)

/-- Loads settings from a file. -/
def settingsFrom (path : String) : m (Except SettingsError Settings) := do
  match ← files.read path with
  | .error reason => return .error (.unreadable path reason)
  | .ok document => match Settings.read document with
    | .error fault => return .error (.invalid (fault.report document.toList))
    | .ok settings => return .ok settings

/-- Loads the settings, and reports where they come from. -/
def loadSettings (source : Source) : m (List Entry × Except SettingsError Settings) := do
  let told (text : String) : List Entry := [⟨.info, .settings, text⟩]
  match source with
  | .file path => return ([], ← settingsFrom files path)
  | .active (some path) =>
    return (told s!"configuration : {path} (via {pathVariable})",
      ← settingsFrom files path)
  | .active none =>
    if ← files.isFile defaultPath then
      return (told s!"configuration : {defaultPath}", ← settingsFrom files defaultPath)
    else
      return (told "configuration par défaut", .ok {})

/-- Loads the known questions, and reports on them. -/
def loadTable (settings : Settings) : m (List Entry × Except TableError Table) := do
  match settings.questionsPath with
  | none =>
    let (table, reports) := Table.builtin
    return (reports, .ok table)
  | some path =>
    match ← files.read path with
    | .error reason => return ([Table.opening s!"'{path}'"], .error (.unreadable path reason))
    | .ok content =>
      let (table, reports) := Table.load s!"'{path}'" content
      return (reports, .ok table)

/-- Loads the settings, then the known questions. -/
def load (source : Source) : m (List Entry × Except StartError Loaded) := do
  match ← loadSettings files source with
  | (reports, .error e) => return (reports, .error (.settings e))
  | (reports, .ok settings) =>
    match ← loadTable files settings with
    | (more, .error e) => return (reports ++ more, .error (.table e))
    | (more, .ok table) => return (reports ++ more, .ok ⟨settings, table⟩)

/-- What the program does before it opens its window: it loads what the environment
asks for, and reports a failure too. -/
def run (chosen : Option String) : m (List Entry × Except StartError Loaded) := do
  match ← load files (.active chosen) with
  | (reports, .error e) => return (reports ++ [⟨.error, .program, e.message⟩], .error e)
  | (reports, .ok loaded) => return (reports, .ok loaded)

end

end Startup

end AnswerDesk
