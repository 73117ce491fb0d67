import ChipEight.Assembly.Program
import ChipEight.Host.Arguments
import ChipEight.Host.Failure
import ChipEight.Host.Journal

/-!
# The assembler command

Assembles files to a program and writes it to another file. Nothing is written before all of it is
there.
-/

namespace ChipEight.Host

/-- The module in a file. It has the name of the file without its suffix. -/
def collect (t : FileTree) (p : Path) : Except Failure Assembly.Module := do
  return { name := p.stem, text := ← readText t p }

/-- How much a note of the assembly matters. -/
def noteLevel : Assembly.Note → Level
  | .processing _ => .info
  | .issued _ | .label _ _ | .reference _ => .debug

namespace Assembler

inductive Stop
  | rejected (e : Assembly.Error)
  | failed (f : Failure)
  deriving DecidableEq, Repr

/-- What the command works on: what it has told so far, and the files. -/
structure Session where
  journal : Journal
  tree : FileTree
  deriving DecidableEq, Repr

/-- A part of the command. What it has told and done stays, also when it stops. -/
abbrev Working := EStateM Stop Session

def tell (level : Level) (text : String) : Working Unit :=
  modify fun s => { s with journal := s.journal.add level text }

def attempt {α : Type} : Except Failure α → Working α
  | .ok a => return a
  | .error f => throw (.failed f)

/-- Changes the files. -/
def change (c : FileTree.Change) : Working Unit := fun s =>
  match c s.tree with
  | .ok () tree => .ok () { s with tree }
  | .error e tree => .error (.failed (.file e)) { s with tree }

def collectTelling (p : Path) : Working Assembly.Module := do
  tell .debug s!"Collecting file {p.toText}"
  attempt (collect (← get).tree p)

def collectAll (sources : List Path) : Working (List Assembly.Module) :=
  sources.mapM collectTelling

def assembleTelling (modules : List Assembly.Module) : Working (List UInt8) := do
  let (result, notes) := Assembly.assembleNoting modules
  notes.forM fun note => tell (noteLevel note) note.message
  match result with
  | .ok program => return program
  | .error .numberTooLong => throw (.failed .numberTooLong)
  | .error e => throw (.rejected e)

def assembleFiles (sources : List Path) (binary : Path) : Working Unit := do
  tell .info "CHIP8 ASM"
  let modules ← collectAll sources
  let program ← assembleTelling modules
  change (FileTree.writeWithDirectories binary program)
  tell .info s!"Written {program.length} bytes to {binary.toText}"

/-- What the command leaves behind. -/
structure Report where
  exitCode : Nat
  lines : List Line
  failure : Option Failure
  tree : FileTree
  deriving DecidableEq, Repr

def report (exitCode : Nat) (failure : Option Failure) (s : Session) : Report :=
  ⟨exitCode, s.journal.lines.toList, failure, s.tree⟩

def runOn (t : FileTree) (verbose : Bool) (sources : List Path) (binary : Path) : Report :=
  match assembleFiles sources binary ⟨⟨verbose, #[]⟩, t⟩ with
  | .ok () s => report 0 none s
  | .error (.rejected e) s =>
    report 1 none { s with journal := s.journal.add .error s!"Compilation failed: {e.message}" }
  | .error (.failed f) s => report 1 (some f) s

def specs : List OptionSpec := [{ letter := 'v', name := "verbose" }]

/-- Runs the command: the last path is that of the program, the others are sources. -/
def run (t : FileTree) (words : List String) : Except Refusal Report := do
  let a ← Arguments.read specs words
  match a.positional.reverse with
  | [] => throw .usage
  | binary :: sources =>
    return runOn t (a.has 'v') (sources.reverse.map Path.ofString) (.ofString binary)

end Assembler

end ChipEight.Host
