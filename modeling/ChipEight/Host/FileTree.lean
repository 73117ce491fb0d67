import ChipEight.Host.Place
import ChipEight.Text.Lines
import ChipEight.Text.Quoted
import ChipEight.Text.Utf8

/-!
# Trees of files

What the commands read from and write to: files with their bytes, and directories. Every operation
names the cause and the path when it fails, and changes nothing then.
-/

namespace ChipEight.Host

/-- Files and directories, by their places. The working directory, those above it and the root are
    always there. -/
structure FileTree where
  files : List (Place × List UInt8) := []
  directories : List Place := []
  deriving DecidableEq, Repr

/-- Why a file could not be read or written, or a directory could not be made. -/
inductive FileCause
  | notFound
  | alreadyThere
  | notDirectory
  | isDirectory
  | nameTooLong
  /-- The path holds the character that ends the names of files. -/
  | nullCharacter
  deriving DecidableEq, Repr

structure FileError where
  cause : FileCause
  path : Path
  deriving DecidableEq, Repr

def FileCause.message : FileCause → String
  | .notFound => "[Errno 2] No such file or directory"
  | .alreadyThere => "[Errno 17] File exists"
  | .notDirectory => "[Errno 20] Not a directory"
  | .isDirectory => "[Errno 21] Is a directory"
  | .nameTooLong => "[Errno 36] File name too long"
  | .nullCharacter => "embedded null byte"

/-- The wording of an error. A path with a null character is not shown. -/
def FileError.message (e : FileError) : String :=
  if e.cause = .nullCharacter then e.cause.message
  else s!"{e.cause.message}: {Text.Quoted.quote e.path.toText}"

namespace FileTree

/-! ## Looking things up -/

def isDirectory (t : FileTree) (p : Place) : Bool :=
  p.names.isEmpty || t.directories.contains p

def file? (t : FileTree) (p : Place) : Option (List UInt8) :=
  t.files.lookup p

def maxNameLength : Nat := 255

def maxPathLength : Nat := 4095

def follow (t : FileTree) (p : Place) : List String → Except FileCause Place
  | [] => .ok p
  | part :: rest =>
    let next := p.into part
    if maxNameLength < part.utf8ByteSize then .error .nameTooLong
    -- All parts but the last must be directories.
    else if t.isDirectory next || rest.isEmpty then follow t next rest
    else .error (if (t.file? next).isSome then .notDirectory else .notFound)

/-- The place that a path leads to, whether or not there is something. -/
def resolve (t : FileTree) (p : Path) : Except FileCause Place :=
  if p.toText.contains '\x00' then .error .nullCharacter
  else if maxPathLength < p.toText.utf8ByteSize then .error .nameTooLong
  else t.follow (.start p.anchor) p.parts

/-! ## Operations -/

/-- An operation on a path, with the path in its error. -/
def named {α : Type} (p : Path) : Except FileCause α → Except FileError α
  | .ok a => .ok a
  | .error cause => .error ⟨cause, p⟩

def read (t : FileTree) (p : Path) : Except FileError (List UInt8) :=
  named p do
    let place ← t.resolve p
    if t.isDirectory place then throw .isDirectory
    match t.file? place with
    | some bytes => return bytes
    | none => throw .notFound

/-- Puts bytes into a file, in the place of one that is there. -/
def putFile (place : Place) (bytes : List UInt8) : List (Place × List UInt8) → List (Place × List UInt8)
  | [] => [(place, bytes)]
  | (p, old) :: files => if p = place then (p, bytes) :: files else (p, old) :: putFile place bytes files

def write (t : FileTree) (p : Path) (bytes : List UInt8) : Except FileError FileTree :=
  named p do
    let place ← t.resolve p
    if t.isDirectory place then throw .isDirectory
    return { t with files := putFile place bytes t.files }

def makeDirectory (t : FileTree) (p : Path) : Except FileCause FileTree := do
  let place ← t.resolve p
  if t.isDirectory place || (t.file? place).isSome then throw .alreadyThere
  return { t with directories := place :: t.directories }

def leadsToDirectory (t : FileTree) (p : Path) : Bool :=
  match t.resolve p with
  | .ok place => t.isDirectory place
  | .error _ => false

def ensureDirectory (t : FileTree) (p : Path) : Except FileCause FileTree :=
  match t.makeDirectory p with
  | .ok t => .ok t
  | .error cause => if cause ≠ .notFound ∧ t.leadsToDirectory p then .ok t else .error cause

/-! ## Changes -/

/-- A change of a tree, which may come to an end on the way. What was done before that stays. -/
abbrev Change := EStateM FileError FileTree Unit

/-- An operation as a change: it is done as a whole or not at all. -/
def change (operation : FileTree → Except FileError FileTree) : Change := do
  match operation (← get) with
  | .ok t => set t
  | .error e => throw e

/-- Makes a directory and those that it lies in, unless there are such directories already; `depth`
    is the number of parts of the path. -/
def ensureDirectories (p : Path) : (depth : Nat) → Change
  | 0 => change fun t => named p (t.ensureDirectory p)
  | depth + 1 => do
    match (← get).ensureDirectory p with
    | .ok t => set t
    | .error .notFound =>
      ensureDirectories p.parent depth
      change fun t => named p (t.ensureDirectory p)
    | .error cause => throw ⟨cause, p⟩

def writeWithDirectories (p : Path) (bytes : List UInt8) : Change := do
  ensureDirectories p.parent p.parent.parts.length
  change fun t => t.write p bytes

/-! ## From a list of files -/

/-- A tree with these files, written one after another. Paths at which no file can be written are
    left out. -/
def ofFiles (files : List (String × List UInt8)) : FileTree :=
  files.foldl
    (fun t (name, bytes) => match writeWithDirectories (.ofString name) bytes t with
      | .ok () t => t
      | .error _ _ => t)
    {}

end FileTree

end ChipEight.Host
