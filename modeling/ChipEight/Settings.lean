import ChipEight.Keypad
import ChipEight.Random.Source
import ChipEight.Text.Lowercase
import ChipEight.Text.Numeral
import ChipEight.Toml.Document

/-!
# Settings

What a user can choose: the size of the window and its colours, how fast the machine runs, the seed
of its random bytes, and which keys of the host stand for the keys of the keypad. Settings are read
from a document with the tables `display`, `cpu` and `keymap`; what is missing there has a default,
and what is not known is passed over.
-/

namespace ChipEight

open Toml (Value)

structure Colour where
  red : UInt8
  green : UInt8
  blue : UInt8
  deriving DecidableEq, Repr

/-- The names of host keys with the keys that they stand for. No name comes twice. -/
abbrev Keymap := List (String × Key)

namespace Keymap

/-- Puts the hexadecimal keypad over the left of a keyboard, row by row. -/
def default : Keymap := [
  ("1", 0x1), ("2", 0x2), ("3", 0x3), ("4", 0xC),
  ("q", 0x4), ("w", 0x5), ("e", 0x6), ("r", 0xD),
  ("a", 0x7), ("s", 0x8), ("d", 0x9), ("f", 0xE),
  ("z", 0xA), ("x", 0x0), ("c", 0xB), ("v", 0xF)]

/-- Gives a name its key, in the place of the name if it is there already. -/
def put (name : String) (key : Key) : Keymap → Keymap
  | [] => [(name, key)]
  | (n, k) :: rest => if n = name then (n, key) :: rest else (n, k) :: put name key rest

end Keymap

structure Settings where
  /-- The width and height of a machine's pixel in the window. -/
  scale : Nat := 15
  cyclesPerFrame : Nat := 10
  frameRate : Nat := 60
  foreground : Colour := ⟨255, 255, 255⟩
  background : Colour := ⟨0, 0, 0⟩
  seed : Option Value := none
  keymap : Keymap := .default

namespace Settings

/-! ## Errors -/

inductive TableUse
  | lookup
  | listing
  deriving DecidableEq, Repr

/-- What a value that is no table lacks. -/
def TableUse.lacking : TableUse → String
  | lookup => "get"
  | listing => "items"

inductive Error
  | malformed
  /-- The setting of this name is no positive integer. -/
  | notPositive (name : String)
  | invalidColour (value : Value)
  | invalidKey (name : String)
  /-- A table was needed, but there is another value in its place. -/
  | notTable (value : Value) (use : TableUse)
  /-- A decimal integer has too many digits, as it stands in the text or as it would stand in a
      message. -/
  | numberTooLong
  | tooDeep
  /-- A message would have to show a value in which others lie too deep. -/
  | tooDeepToShow

def Error.message : Error → String
  | malformed => "Malformed configuration"
  | notPositive name => s!"{name} must be a positive integer"
  | invalidColour value => s!"Invalid colour {value.shown}"
  | invalidKey name => s!"Invalid key {Text.Quoted.quote name}, expected a hex digit 0-F"
  | notTable value use => s!"'{value.typeName}' object has no attribute '{use.lacking}'"
  | numberTooLong => Decimal.limitMessage
  | tooDeep => "maximum recursion depth exceeded"
  | tooDeepToShow => "maximum recursion depth exceeded while getting the repr of an object"

/-- The error of having to show a value that cannot be shown. -/
def Error.ofObstacle : Value.Obstacle → Error
  | .numberTooLong => numberTooLong
  | .tooDeep => tooDeepToShow

/-- An error whose message shows a value, if nothing is in the way of that. -/
def Error.about (v : Value) (e : Error) : Error :=
  (v.obstacle?.map ofObstacle).getD e

/-! ## Single settings -/

def parseKey (name : String) : Except Error Key :=
  match (Text.Numeral.hexadecimal? name).bind Key.ofInt? with
  | some key => .ok key
  | none => .error (.invalidKey name)

def channel? : Value → Option UInt8
  | .integer n => if 0 ≤ n ∧ n ≤ 255 then some (UInt8.ofNat n.toNat) else none
  | _ => none

def colour? : Value → Option Colour
  | .array [red, green, blue] => do return ⟨← channel? red, ← channel? green, ← channel? blue⟩
  | _ => none

/-- Reads a colour: three integers from 0 to 255. -/
def parseColour (value : Value) : Except Error Colour :=
  match colour? value with
  | some colour => .ok colour
  | none => .error (.about value (.invalidColour value))

/-- Reads a positive integer from a table, where it may be missing. -/
def positive (table : List (String × Value)) (name : String) (default : Nat) : Except Error Nat :=
  match table.lookup name with
  | none => if default = 0 then .error (.notPositive name) else .ok default
  | some (.integer n) => if 0 < n then .ok n.toNat else .error (.notPositive name)
  | some _ => .error (.notPositive name)

def colour (table : List (String × Value)) (name : String) (default : Colour) : Except Error Colour :=
  match table.lookup name with
  | none => .ok default
  | some value => parseColour value

/-- The entries of a table in a document; a missing one has none. -/
def tableOf (document : List (String × Value)) (name : String) (use : TableUse) :
    Except Error (List (String × Value)) :=
  match document.lookup name with
  | none => .ok []
  | some (.table entries) => .ok entries
  | some value => .error (.notTable value use)

def addKey (keymap : Keymap) (entry : String × Value) : Except Error Keymap :=
  let (hostKey, value) := entry
  match value.obstacle? with
  | some obstacle => .error (.ofObstacle obstacle)
  -- Host keys are known by their names in lower case.
  | none => (parseKey value.plain).map (keymap.put (Text.lower hostKey))

def readKeymap (document : List (String × Value)) : Except Error Keymap :=
  if (document.lookup "keymap").isNone then .ok .default
  -- Nothing of the default is left.
  else do (← tableOf document "keymap" .listing).foldlM addKey []

/-! ## All settings -/

def ofDocument (document : List (String × Value)) : Except Error Settings := do
  let defaults : Settings := {}
  let display ← tableOf document "display" .lookup
  let scale ← positive display "scale" defaults.scale
  let foreground ← colour display "foreground" defaults.foreground
  let background ← colour display "background" defaults.background
  let cpu ← tableOf document "cpu" .lookup
  let cyclesPerFrame ← positive cpu "cycles_per_frame" defaults.cyclesPerFrame
  let frameRate ← positive cpu "frame_rate" defaults.frameRate
  let keymap ← readKeymap document
  return { scale, cyclesPerFrame, frameRate, foreground, background, seed := cpu.lookup "seed", keymap }

def parse (text : String) : Except Error Settings :=
  match Toml.parse text with
  | .ok document => ofDocument document
  | .error .malformed => .error .malformed
  | .error .numberTooLong => .error .numberTooLong
  | .error .tooDeep => .error .tooDeep

/-! ## The seed -/

/-- What is said of a seed that is none. -/
def seedMessage : String :=
  "The only supported seed types are: None,\nint, float, str, bytes, and bytearray."

/-- The source of random bytes for a seed. What is no single value is no seed. -/
def source? (entropy : Int) : Option Value → Option Random.Source
  | some (.integer n) => some (.ofSeed n)
  | some (.boolean b) => some (.ofSeed (if b then 1 else 0))
  -- Numbers and texts could come to anything, as if there were no seed.
  | none | some .null | some (.float _) | some (.text _) => some (.ofSeed entropy)
  | some _ => none

end Settings

end ChipEight
