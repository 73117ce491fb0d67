import ChipEight.Host.Assembler
import ChipEight.Host.Emulator

/-!
# The program

The two commands on real files. `asm` assembles. `run` emulates in a terminal: each line of the
standard input is a turn, with events such as `down q`, `up left shift` and `quit` between commas,
or the word `interrupt`.
-/

namespace ChipEight.Main

open Host

/-- The files at these paths, as far as they can be read. -/
def gather (paths : List String) : IO FileTree := do
  let mut files : List (String × List UInt8) := []
  for path in paths do
    try
      files := (path, (← IO.FS.readBinFile path).toList) :: files
    catch _ => pure ()
  return .ofFiles files

def tellAll (lines : List Line) : IO Unit :=
  lines.forM fun line => line.written.forM (IO.eprintln ·)

/-- Says why the words behind a command were refused. -/
def refuse (use : String) : Refusal → IO UInt32
  | .usage => do
    IO.eprintln s!"Usage: {use}"
    return 2
  | .misuse => do
    IO.eprintln "Error: an option lacks its value or must have none"
    return 2

/-- The paths among the words behind a command. -/
def pathsOf (specs : List OptionSpec) (words : List String) : List String :=
  match Arguments.read specs words with
  | .ok a => a.positional ++ a.options.map (·.2)
  | .error _ => []

def assemble (words : List String) : IO UInt32 := do
  let t ← gather (pathsOf Assembler.specs words)
  match Assembler.run t words with
  | .error refusal => refuse "asm [-v] [SOURCES]... BINARY" refusal
  | .ok report =>
    tellAll report.lines
    for (place, bytes) in report.tree.files do
      if t.file? place ≠ some bytes then
        unless place.names.length ≤ 1 do IO.FS.createDirAll place.up.toText
        IO.FS.writeBinFile place.toText ⟨bytes.toArray⟩
    if let some failure := report.failure then IO.eprintln failure.message
    return UInt32.ofNat report.exitCode

def eventOf? (text : String) : Option Event :=
  match (text.splitOn " ").filter (· != "") with
  | "down" :: name => (HostKey.ofName? (" ".intercalate name)).map .down
  | "up" :: name => (HostKey.ofName? (" ".intercalate name)).map .up
  | ["quit"] => some .quit
  | ["mouse"] => some .mouse
  | _ => none

def turnOf (line : String) : Turn :=
  let line := String.ofList (line.toList.filter fun c => c != '\n' && c != '\r')
  if line = "interrupt" then .interrupt else .events ((line.splitOn ",").filterMap eventOf?)

partial def readTurns (turns : List Turn) : IO (List Turn) := do
  let line ← (← IO.getStdin).getLine
  if line.isEmpty then return turns.reverse
  readTurns (turnOf line :: turns)

/-- A row of a frame as coloured blanks, two for each pixel of the display. -/
def rowText (c : Canvas) (y : Nat) : String :=
  let scale := c.width / Display.width
  String.join <| (List.range Display.width).map fun x =>
    let colour := c.colour (x * scale) (y * scale)
    s!"\x1b[48;2;{colour.red};{colour.green};{colour.blue}m  "

def printFrame (c : Canvas) : IO Unit := do
  (List.range Display.height).forM fun y => IO.println (rowText c y ++ "\x1b[0m")
  IO.println ""

def emulate (words : List String) : IO UInt32 := do
  let t ← gather (pathsOf Emulator.specs words)
  let entropy ← IO.rand 0 0xFFFFFFFF
  let turns ← readTurns []
  match Emulator.run t words entropy turns with
  | .error refusal => refuse "run [-v] [-c FILE] ROM" refusal
  | .ok report =>
    report.frames.forM printFrame
    tellAll report.lines
    return UInt32.ofNat report.exitCode

end ChipEight.Main

def main (words : List String) : IO UInt32 :=
  match words with
  | "asm" :: words => ChipEight.Main.assemble words
  | "run" :: words => ChipEight.Main.emulate words
  | _ => do
    IO.eprintln "Usage: asm | run"
    return 2
