/-!
# `AnswerDesk.Files`: reading files

What the desk needs of files is small: to see whether a file exists, and to read its
text. `FileAccess` holds these two operations in a monad of the caller's choice, so
that the same startup runs on the disk and on a `FileTree`, which is a plain value.

A file tree stands for the contents of the working directory. Of what lies outside it,
little is known: the standard directories and the empty device are below the root, and a
path that climbs out of the working directory leads to directories only.
-/

set_option autoImplicit false

namespace AnswerDesk

/-- Why the text of a file cannot be read. -/
inductive ReadError where
  | notFound
  | isDirectory
  /-- Something on the way to the file is a file itself. -/
  | notDirectory
  | nameTooLong
  /-- The path holds the character NUL. -/
  | nulInPath
  /-- The bytes are no text in UTF-8. -/
  | notText
  | other (reason : String)
  deriving Repr, DecidableEq

def ReadError.message : ReadError → String
  | .notFound => "No such file or directory (os error 2)"
  | .isDirectory => "Is a directory (os error 21)"
  | .notDirectory => "Not a directory (os error 20)"
  | .nameTooLong => "File name too long (os error 36)"
  | .nulInPath => "file name contained an unexpected NUL byte"
  | .notText => "stream did not contain valid UTF-8"
  | .other reason => reason

/-- The operations on files that the desk needs. -/
structure FileAccess (m : Type → Type) where
  /-- The path leads to a file, and not to a directory. -/
  isFile : String → m Bool
  /-- The text of the file that the path leads to. -/
  read : String → m (Except ReadError String)

/-- The text that bytes hold. -/
def ReadError.textOfBytes (bytes : ByteArray) : Except ReadError String :=
  match String.fromUTF8? bytes with
  | some text => .ok text
  | none => .error .notText

/-- A file or a directory. -/
inductive Contents where
  | file (bytes : ByteArray)
  | directory

/-- The contents of the working directory, by name. A name may have several parts;
the directories on its way exist then. -/
abbrev FileTree := List (String × Contents)

/-- The parts of a path between slashes. -/
def pathParts (path : String) : List String :=
  (path.toList.splitOn '/').map String.ofList

namespace FileTree

/-- The longest name of a file, in bytes, and the length that a path stays below. -/
def maxName : Nat := 255

def maxPath : Nat := 4096

/-- What stands at a place below the working directory. -/
def contentsAt? (tree : FileTree) (place : List String) : Option Contents :=
  let named := tree.map fun (name, contents) =>
    ((pathParts name).filter fun part => part ≠ "" ∧ part ≠ ".", contents)
  if place.isEmpty then some .directory
  else match named.lookup place with
    | some contents => some contents
    | none => if named.any fun (name, _) => place.isPrefixOf name then some .directory else none

/-- What is below the root of every system. -/
def standard : FileTree :=
  ("dev/null", .file .empty) ::
    ["bin", "etc", "home", "lib", "opt", "proc", "sys", "tmp", "usr/bin", "usr/lib", "var/tmp"].map
      (·, .directory)

/-- Where a path has led so far: below the working directory, below the root, or to a
directory above the working directory. -/
inductive Place where
  | inside (place : List String)
  | absolute (place : List String)
  | above

/-- Follows one part of a path from a place in a tree. There is no place above its top. -/
def step (tree : FileTree) (place : List String) (part : String) :
    Except ReadError (Option (List String)) :=
  match tree.contentsAt? place with
  | some (.file _) => .error .notDirectory
  | _ =>
    if part = "" ∨ part = "." then .ok (some place)
    else if part = ".." then .ok (if place.isEmpty then none else some place.dropLast)
    else if maxName < part.utf8ByteSize then .error .nameTooLong
    else if (tree.contentsAt? (place ++ [part])).isSome then .ok (some (place ++ [part]))
    else .error .notFound

/-- Follows one part of a path. The root is above itself. -/
def follow (tree : FileTree) (place : Place) (part : String) : Except ReadError Place :=
  match place with
  | .inside place => (tree.step place part).map fun found => found.elim .above .inside
  | .absolute place => (standard.step place part).map fun found => .absolute (found.getD [])
  | .above => (step [] [] part).map fun _ => .above

/-- What a path leads to. -/
def find (tree : FileTree) (path : String) : Except ReadError Contents :=
  if path.contains '\x00' then .error .nulInPath
  else if path = "" then .error .notFound
  else if maxPath ≤ path.utf8ByteSize then .error .nameTooLong
  else do
    let start := if path.startsWith "/" then Place.absolute [] else .inside []
    match ← (pathParts path).foldlM tree.follow start with
    | .inside place => return (tree.contentsAt? place).getD .directory
    | .absolute place => return (standard.contentsAt? place).getD .directory
    | .above => return .directory

/-- The text of the file that a path leads to. -/
def read (tree : FileTree) (path : String) : Except ReadError String :=
  match tree.find path with
  | .error e => .error e
  | .ok .directory => .error .isDirectory
  | .ok (.file bytes) => ReadError.textOfBytes bytes

/-- A path leads to a file. -/
def isFile (tree : FileTree) (path : String) : Bool :=
  match tree.find path with
  | .ok (.file _) => true
  | _ => false

/-- Reading from a file tree. -/
def access (tree : FileTree) : FileAccess Id where
  isFile path := tree.isFile path
  read path := tree.read path

end FileTree

end AnswerDesk
