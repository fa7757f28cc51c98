import AnswerDesk.Journal.Filter
import AnswerDesk.Journal.Line
import AnswerDesk.Startup

/-!
# `AnswerDesk.Main`: the program

The program loads the settings and the known questions, and writes what there is to
report to standard error, as far as the filter in the variable `RUST_LOG` lets it
through. It ends with the exit code of the failure, or with zero once the desk is
ready for its window.
-/

set_option autoImplicit false

namespace AnswerDesk.Main

/-- The number of an error of the system. Some calls report it with its sign turned. -/
def errorNumber (code : UInt32) : UInt32 := min code (-code)

/-- The reason that the system gives for not reading a file. -/
def reasonOf : IO.Error → ReadError
  | .noFileOrDirectory .. => .notFound
  | .inappropriateType _ code details => match errorNumber code with
    | 20 => .notDirectory
    | 21 => .isDirectory
    | number => .other s!"{details} (os error {number})"
  | .invalidArgument _ code details => match errorNumber code with
    | 36 => .nameTooLong
    | number => .other s!"{details} (os error {number})"
  | e => .other (toString e)

/-- Reads the text of a file on the disk. -/
def readText (path : String) : IO (Except ReadError String) := do
  if path.contains '\x00' then return .error .nulInPath
  match ← (IO.FS.readBinFile path).toBaseIO with
  | .ok bytes => return ReadError.textOfBytes bytes
  | .error e => return .error (reasonOf e)

/-- Reading from the disk. -/
def disk : FileAccess IO where
  isFile path := do
    match ← readText path with
    | .ok _ => return true
    | .error reason => return reason matches .notText | .other _
  read := readText

/-- An entry as it is written to standard error, with the levels in one column. -/
def line (entry : Journal.Entry) : String :=
  let name := entry.level.name.toUpper
  let level := name.pushn ' ' (5 - name.length)
  s!"[{level} {entry.topic.name}] " ++ String.ofList entry.written

end AnswerDesk.Main

open AnswerDesk in
def main : IO UInt32 := do
  let filter := match ← IO.getEnv "RUST_LOG" with
    | some text => Journal.Filter.read text
    | none => Journal.Filter.default
  let (entries, result) ← Startup.run AnswerDesk.Main.disk (← IO.getEnv Startup.pathVariable)
  for entry in entries.filter filter.shows do
    IO.eprintln (AnswerDesk.Main.line entry)
  match result with
  | .ok _ => return 0
  | .error e => return e.exitCode
