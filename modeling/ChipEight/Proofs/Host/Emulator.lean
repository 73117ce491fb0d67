import ChipEight.Proofs.Host.Turns
import ChipEight.Proofs.Memory

/-!
# The emulator command is faithful to the machine

With settings that a host honours the command gets from its arguments to taking turns, or stops at a
program that is too long (`execute_apply`). The rest of it is what comes of the turns.
-/

namespace ChipEight.Host.Emulator

variable {settings : Settings} {bindings : Bindings}

/-! ## Preparations -/

/-- Whether the command takes these settings: the default ones, or those in a file. -/
def Accepts (t : FileTree) (config : Option Path) (settings : Settings) : Prop :=
  match config with
  | none => settings = {}
  | some p => ∃ text, readText t p = .ok text ∧ Settings.parse text = .ok settings

/-- What the command tells before it loads a program. -/
def opening (config : Option Path) : List Line :=
  ⟨.info, "CHIP8"⟩ ::
    config.toList.map fun p => ⟨.debug, s!"Loading settings from {p.toText}"⟩

/-- What it tells when it has loaded one. -/
def loaded (length : Nat) : Line :=
  ⟨.debug, s!"Loaded {length} bytes @ 0x{Text.Hexadecimal.ofInt Memory.romBase}"⟩

theorem loadSettings_apply {t : FileTree} {config : Option Path}
    (accepts : Accepts t config settings) (s : Showing) :
    loadSettings t config s =
      .ok settings (s.tell (config.toList.map fun p =>
        ⟨.debug, s!"Loading settings from {p.toText}"⟩)) := by
  cases config with
  | none =>
    obtain rfl : settings = {} := accepts
    rfl
  | some p =>
    obtain ⟨text, read, parsed⟩ := accepts
    have got : attempt (readText t p) = pure text := by
      rw [read]
      rfl
    rw [loadSettings, got, pure_bind, parsed]
    rfl

theorem prepare_apply {random : Random.Source} {entropy : Int}
    (seeded : Settings.source? entropy settings.seed = some random) (rom : List UInt8)
    (s : Showing) :
    prepare settings entropy rom s =
      match Machine.load rom { random } with
      | .error fault _ => .error (.fault fault) s
      | .ok () m => .ok m (s.tell [loaded rom.length]) := by
  rw [prepare, seeded]
  dsimp only
  cases Machine.load rom { random } <;> rfl

/-- With settings that a host honours, the command gets to taking turns if the program is loaded. -/
theorem execute_apply {t : FileTree} {config : Option Path} {rom : Path} {bytes : List UInt8}
    {random : Random.Source} {entropy : Int} (accepts : Accepts t config settings)
    (contents : t.read rom = .ok bytes)
    (seeded : Settings.source? entropy settings.seed = some random)
    (honours : Honours settings bindings) (turns : List Turn) (s : Showing) :
    execute t config rom entropy turns s =
      match Machine.load bytes { random } with
      | .error fault _ => .error (.fault fault) (s.tell (opening config))
      | .ok () m =>
        play settings bindings m
          (.blank (Display.width * settings.scale) (Display.height * settings.scale)) turns
          (s.tell (opening config ++ [loaded bytes.length])) := by
  have program : attempt (readBytes t rom) = pure bytes := by
    rw [readBytes, contents]
    rfl
  have keys : bindKeys settings = pure bindings := by rw [bindKeys, honours.keys]
  have window : openWindow settings =
      pure (.blank (Display.width * settings.scale) (Display.height * settings.scale)) := by
    rw [openWindow, honours.window]
  rw [execute, bind_apply, tell_apply]
  dsimp only
  rw [bind_apply, loadSettings_apply accepts]
  dsimp only
  rw [program, pure_bind, bind_apply, prepare_apply seeded, keys, window]
  cases Machine.load bytes { random } with
  | error fault _ => rfl
  | ok _ m =>
    simp only [pure_bind]
    rw [Showing.tell_append]
    rfl

theorem run_of_read (t : FileTree) (words : List String) (entropy : Int) (turns : List Turn)
    (a : Arguments) (rom : String) (read : Arguments.read specs words = .ok a)
    (positional : a.positional = [rom]) :
    run t words entropy turns = .ok (runOn t (a.has 'v') ((a.value? 'c').map .ofString)
      (.ofString rom) entropy turns) := by
  have taken : Arguments.read specs words = pure a := read
  rw [run, taken, pure_bind, positional]
  rfl

end ChipEight.Host.Emulator
