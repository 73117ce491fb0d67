import ChipEight.Instruction

/-!
# Opcodes

How a word is read as an instruction. The leading nibble of a word, its family, decides which of its
bits select the operation; with the other bits cleared the word is the operation's template. Family
0 is the exception: it holds two exact words, and all its other words are calls of outside routines.

Opcodes are integers here, because one may be given to a machine without having been in its memory.
A word is the case that matters; a negative number down to `-0x10000` is read by its low sixteen
bits, and what is wider has no family.
-/

namespace ChipEight.Opcode

/-! ## Fields -/

/-- The second nibble. -/
def x (op : Int) : Register := Nibble.ofInt (op / 0x100)

/-- The third nibble. -/
def y (op : Int) : Register := Nibble.ofInt (op / 0x10)

/-- The lowest nibble. -/
def n (op : Int) : Nibble := Nibble.ofInt op

/-- The low byte. -/
def nn (op : Int) : UInt8 := UInt8.ofNat (op % 0x100).toNat

/-- The low three nibbles. -/
def nnn (op : Int) : Address := ⟨(op % 0x1000).toNat, by omega⟩

/-! ## Decoding -/

/-- The template of a number of sixteen bits or less outside family 0: the bits that select an
    operation in its family. -/
def templateOfBits (word : Nat) : Nat :=
  match word / 0x1000 with
  -- Only a negative number comes here with a leading nibble of zero. It keeps all its low bits.
  | 0 => word
  | 0x5 => 0x5000 + word % 16
  | 0x8 => 0x8000 + word % 16
  | 0x9 => 0x9000 + word % 16
  | 0xE => 0xE000 + word % 0x100
  | 0xF => 0xF000 + word % 0x100
  | family => family * 0x1000

/-- The template that selects the operation of an opcode; none, if the opcode is too wide to have
    one. -/
def template? (op : Int) : Option Nat :=
  if 0 ≤ op ∧ op < 0x1000 then some (if op = 0x00E0 ∨ op = 0x00EE then op.toNat else 0)
  else if -0x10000 ≤ op ∧ op < 0x10000 then some (templateOfBits (op % 0x10000).toNat)
  else none

/-- The instruction of a template, with its operands taken from `op`. -/
def instruction? (template : Nat) (op : Int) : Option Instruction :=
  match template with
  | 0x0000 => some (.sys (nnn op))
  | 0x00E0 => some .clear
  | 0x00EE => some .ret
  | 0x1000 => some (.jump (nnn op))
  | 0x2000 => some (.call (nnn op))
  | 0x3000 => some (.skipEqual (x op) (nn op))
  | 0x4000 => some (.skipUnequal (x op) (nn op))
  | 0x5000 => some (.skipSame (x op) (y op))
  | 0x6000 => some (.load (x op) (nn op))
  | 0x7000 => some (.add (x op) (nn op))
  | 0x8000 => some (.copy (x op) (y op))
  | 0x8001 => some (.or (x op) (y op))
  | 0x8002 => some (.and (x op) (y op))
  | 0x8003 => some (.xor (x op) (y op))
  | 0x8004 => some (.addRegister (x op) (y op))
  | 0x8005 => some (.sub (x op) (y op))
  | 0x8006 => some (.shiftRight (x op) (y op))
  | 0x8007 => some (.subFrom (x op) (y op))
  | 0x800E => some (.shiftLeft (x op) (y op))
  | 0x9000 => some (.skipDifferent (x op) (y op))
  | 0xA000 => some (.loadIndex (nnn op))
  | 0xB000 => some (.jumpOffset (nnn op))
  | 0xC000 => some (.random (x op) (nn op))
  | 0xD000 => some (.draw (x op) (y op) (n op))
  | 0xE09E => some (.skipPressed (x op))
  | 0xE0A1 => some (.skipReleased (x op))
  | 0xF007 => some (.readDelay (x op))
  | 0xF00A => some (.waitKey (x op))
  | 0xF015 => some (.setDelay (x op))
  | 0xF018 => some (.setSound (x op))
  | 0xF01E => some (.addIndex (x op))
  | 0xF029 => some (.loadGlyph (x op))
  | 0xF033 => some (.storeDecimal (x op))
  | 0xF055 => some (.storeRegisters (x op))
  | 0xF065 => some (.loadRegisters (x op))
  | _ => none

def decode? (op : Int) : Option Instruction :=
  (template? op).bind fun template => instruction? template op

end ChipEight.Opcode
