import ChipEight.Host.Arguments
import ChipEight.Host.Canvas
import ChipEight.Host.Event
import ChipEight.Host.Failure
import ChipEight.Host.Journal
import ChipEight.Machine.Dump

/-!
# The emulator command

Runs a program in a window. In each turn the events since the last one are handled, a frame is run,
and the display is drawn. The command ends when the user wants it to, when the machine faults, or
when something is wrong from the start; how it ended shows in its exit code and in the last line of
its journal.
-/

namespace ChipEight.Host.Emulator

inductive Halt
  | badSettings (message : String)
  | fault (f : Fault)
  | interrupted
  | failed (message : String)
  deriving DecidableEq, Repr

def Halt.exitCode : Halt → Nat
  | .fault _ => 2
  | .interrupted => 3
  | .badSettings _ | .failed _ => 100

def Halt.message : Halt → String
  | .badSettings message => s!"Bad configuration: {message}"
  | .fault f => s!"Execution halted on machine fault: {f.message}"
  | .interrupted => "Execution halted by the user"
  | .failed message => s!"Execution halted on general error {message}"

/-- What the command has told and shown so far. -/
structure Showing where
  journal : Journal
  frames : Array Canvas := #[]

abbrev Show := EStateM Halt Showing

def tell (level : Level) (text : String) : Show Unit :=
  modify fun s => { s with journal := s.journal.add level text }

def present (c : Canvas) : Show Unit :=
  modify fun s => { s with frames := s.frames.push c }

def attempt {α : Type} : Except Failure α → Show α
  | .ok a => return a
  | .error f => throw (.failed f.message)

/-! ## Preparations -/

/-- The halt that an error of the settings makes. A value that is no table, an integer that is too
    long and values that lie too deep come up as failures of another kind. -/
def settingsHalt (e : Settings.Error) : Halt :=
  match e with
  | .notTable _ _ | .numberTooLong | .tooDeep | .tooDeepToShow => .failed e.message
  | _ => .badSettings e.message

def loadSettings (t : FileTree) : Option Path → Show Settings
  | none => return {}
  | some p => do
    tell .debug s!"Loading settings from {p.toText}"
    match Settings.parse (← attempt (readText t p)) with
    | .ok settings => return settings
    | .error e => throw (settingsHalt e)

def prepare (settings : Settings) (entropy : Int) (rom : List UInt8) : Show Machine := do
  match Settings.source? entropy settings.seed with
  | none => throw (.failed Settings.seedMessage)
  | some random =>
    match Machine.load rom { random } with
    | .error f _ => throw (.fault f)
    | .ok () m =>
      tell .debug s!"Loaded {rom.length} bytes @ 0x{Text.Hexadecimal.ofInt Memory.romBase}"
      return m

def bindKeys (settings : Settings) : Show Bindings :=
  match Bindings.ofKeymap settings.keymap with
  | .ok bindings => return bindings
  | .error name => throw (.badSettings s!"Unknown host key {Text.Quoted.quote name}")

def openWindow (settings : Settings) : Show Canvas :=
  match Canvas.ofSettings settings with
  | .ok c => return c
  | .error e => throw (.failed e.message)

/-! ## Turns -/

def frame (settings : Settings) (m : Machine) : Show Machine := do
  -- Those who want details are told the registers after each step.
  if (← get).journal.verbose then
    (Machine.stepStates settings.cyclesPerFrame m).forM fun m => tell .debug m.dump
  match Machine.runFrame settings.cyclesPerFrame m with
  | .ok () m => return m
  | .error f m => do
    tell .debug m.dump
    throw (.fault f)

def wait (settings : Settings) : Show Unit := do
  -- The time until then is a floating point number, which a frame rate can be too large for.
  match Decimal.Binary64.ofQuotient false settings.frameRate 1 with
  | .infinite _ => throw (.failed "int too large to convert to float")
  | _ => return

/-- Takes turns until there are none left, the user quits or something ends the run. -/
def play (settings : Settings) (bindings : Bindings) (m : Machine) (c : Canvas) : List Turn → Show Unit
  | [] => return
  | .interrupt :: _ => throw .interrupted
  | .events events :: turns =>
    match Event.applyAll bindings m events with
    | (false, _) => return
    | (true, m) => do
      let m ← frame settings m
      let c := c.draw settings m.display
      present c
      wait settings
      play settings bindings m c turns

/-! ## The command -/

def execute (t : FileTree) (config : Option Path) (rom : Path) (entropy : Int) (turns : List Turn) : Show Unit := do
  tell .info "CHIP8"
  let settings ← loadSettings t config
  let rom ← attempt (readBytes t rom)
  let m ← prepare settings entropy rom
  let bindings ← bindKeys settings
  play settings bindings m (← openWindow settings) turns

/-- What the command leaves behind. -/
structure Report where
  exitCode : Nat
  lines : List Line
  frames : List Canvas

/-- A report of what was told and shown, and of how it ended. -/
def report (exitCode : Nat) (ending : String) (s : Showing) : Report :=
  ⟨exitCode, (s.journal.add .info ending).lines.toList, s.frames.toList⟩

def runOn (t : FileTree) (verbose : Bool) (config : Option Path) (rom : Path) (entropy : Int) (turns : List Turn) :
    Report :=
  match execute t config rom entropy turns ⟨⟨verbose, #[]⟩, #[]⟩ with
  | .ok () s => report 0 "Execution stopped by the user" s
  | .error halt s => report halt.exitCode halt.message s

def specs : List OptionSpec := [
  { letter := 'v', name := "verbose" },
  { letter := 'c', name := "config", takesValue := true }]

/-- Runs the command: its only path is that of the program. -/
def run (t : FileTree) (words : List String) (entropy : Int) (turns : List Turn) : Except Refusal Report := do
  let a ← Arguments.read specs words
  match a.positional with
  | [rom] => return runOn t (a.has 'v') ((a.value? 'c').map Path.ofString) (.ofString rom) entropy turns
  | _ => throw .usage

end ChipEight.Host.Emulator
