import ChipEight.Assembly.Action
import ChipEight.Assembly.Error
import ChipEight.Memory

/-!
# The first pass

Actions put together a listing: the chunks of the program in order, some of which still refer to
labels, and the labels with the offsets at which they were defined. An action that fails leaves the
listing as it was.
-/

namespace ChipEight.Assembly

/-- A part of a program. -/
inductive Chunk
  | bytes (block : List UInt8)
  /-- A word that the address of a label goes into. -/
  | reference (template : Int) (label : String)
  deriving DecidableEq, Repr

def Chunk.size : Chunk → Nat
  | .bytes block => block.length
  | .reference _ _ => 2

/-- What a person who watches an assembly is told. -/
inductive Note
  | processing (moduleName : String)
  | issued (word : Nat)
  | label (name : String) (offset : Nat)
  | reference (name : String)
  deriving DecidableEq, Repr

def Note.message : Note → String
  | .processing moduleName => s!"Processing {moduleName}"
  | .issued word => s!"Issuing command 0x{Text.Hexadecimal.ofInt word 4}"
  | .label name offset => s!"Label {name} @ 0x{Text.Hexadecimal.ofInt offset}"
  | .reference name => s!"Ref {name}"

structure Listing where
  chunks : Array Chunk := #[]
  size : Nat := 0
  /-- The labels and their offsets, the latest first. -/
  labels : List (String × Nat) := []
  /-- The module that the actions come from. -/
  moduleName : String := "<global>"
  notes : Array Note := #[]
  deriving DecidableEq, Repr

abbrev FirstPass := EStateM Error Listing

namespace Listing

def offset? (l : Listing) (name : String) : Option Nat :=
  l.labels.lookup name

def append (l : Listing) (chunk : Chunk) : Listing :=
  { l with chunks := l.chunks.push chunk, size := l.size + chunk.size }

def note (l : Listing) (note : Note) : Listing :=
  { l with notes := l.notes.push note }

end Listing

def encode (template : Int) (operands : List (Field × Int)) : Except Error Nat :=
  let word := operands.foldl (fun word (field, value) => word ||| (value.toNat <<< field.shift)) template.toNat
  if template < 0 ∨ 0x10000000000000000 ≤ word then .error .wordOutOfRange
  else if 0x10000 ≤ word then .error .wordTooWide
  else .ok word

/-- The two bytes of a word, the high one first. -/
def wordBytes (word : Nat) : List UInt8 :=
  [UInt8.ofNat (word / 0x100), UInt8.ofNat word]

namespace FirstPass

/-- Goes on with the result of a check, or fails as it did. -/
def ofExcept {α : Type} : Except Error α → FirstPass α
  | .ok a => return a
  | .error e => throw e

def check (operands : List (Field × Int)) : FirstPass Unit :=
  operands.forM fun (field, value) => ofExcept (checkRange field.what value field.limit)

def perform : Action → FirstPass Unit
  | .word template operands => do
    check operands
    let word ← ofExcept (encode template operands)
    modify fun l => (l.note (.issued word)).append (.bytes (wordBytes word))
  | .reference template label =>
    modify fun l => (l.note (.reference label)).append (.reference template label)
  | .data values => do
    check (values.map fun v => (.byte, v))
    modify (·.append (.bytes (values.map fun v => UInt8.ofNat v.toNat)))
  | .bytes block => modify (·.append (.bytes block))
  | .label name => do
    let l ← get
    if (l.offset? name).isSome then throw (.duplicateLabel name)
    set ({ l with labels := (name, l.size) :: l.labels }.note (.label name l.size))
  | .unknown text => do throw (.unknownCommand text (← get).moduleName)

end FirstPass

end ChipEight.Assembly
