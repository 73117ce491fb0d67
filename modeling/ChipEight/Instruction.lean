import ChipEight.Nibble

/-!
# Operations

The thirty-five operations of the machine, each with its operands. An operand's type is a parameter:
in a decoded word every number is in range by its width, while in a program text a number may be too
large and an address may be a name. `Instruction` is the first of the two.
-/

namespace ChipEight

/-- A register, by its number. -/
abbrev Register := Nibble

/-- The register that arithmetic and drawing leave their flag in. -/
def Register.flag : Register := 15

/-- An address as an instruction holds it. -/
abbrev Address := Fin 0x1000

/-- An operation with its operands; `Byte`, `Nibble` and `Addr` are the types of its numbers and of
    its address. -/
inductive Operation (Byte Nibble Addr : Type)
  /-- Does nothing; once a call of a routine outside the machine. -/
  | sys (target : Addr)
  | clear
  /-- Jumps back to where the youngest call was made. -/
  | ret
  | jump (target : Addr)
  | call (target : Addr)
  | skipEqual (x : Register) (value : Byte)
  | skipUnequal (x : Register) (value : Byte)
  | skipSame (x y : Register)
  | load (x : Register) (value : Byte)
  /-- Adds a value to a register; there is no flag. -/
  | add (x : Register) (value : Byte)
  | copy (x y : Register)
  | or (x y : Register)
  | and (x y : Register)
  | xor (x y : Register)
  /-- Adds register `y` to `x`; the flag is the carry. -/
  | addRegister (x y : Register)
  /-- Takes register `y` from `x`; the flag is clear if that borrows. -/
  | sub (x y : Register)
  /-- Halves register `x`; the flag is the bit shifted out. The second register has no part in
      it. -/
  | shiftRight (x y : Register)
  /-- Puts register `y` less `x` into `x`; the flag is clear if that borrows. -/
  | subFrom (x y : Register)
  /-- Doubles register `x`; the flag is the bit shifted out. The second register has no part in
      it. -/
  | shiftLeft (x y : Register)
  | skipDifferent (x y : Register)
  | loadIndex (target : Addr)
  /-- Jumps to an address plus the value of register 0. -/
  | jumpOffset (target : Addr)
  /-- Puts a random byte into `x`, of which only the bits of `mask` are kept. -/
  | random (x : Register) (mask : Byte)
  /-- Draws the sprite of `rows` bytes at the index register; the flag tells whether a lit pixel
      went out. -/
  | draw (x y : Register) (rows : Nibble)
  | skipPressed (x : Register)
  | skipReleased (x : Register)
  | readDelay (x : Register)
  /-- Waits for a pressed key and puts it into `x`. -/
  | waitKey (x : Register)
  | setDelay (x : Register)
  | setSound (x : Register)
  | addIndex (x : Register)
  /-- Points the index register at the glyph of the digit in `x`. -/
  | loadGlyph (x : Register)
  /-- Writes the three decimal digits of `x` to memory at the index register. -/
  | storeDecimal (x : Register)
  /-- Writes registers 0 to `x` to memory at the index register. -/
  | storeRegisters (x : Register)
  /-- Reads registers 0 to `x` from memory at the index register. -/
  | loadRegisters (x : Register)
  deriving DecidableEq, Repr

/-- An operation as a word of memory holds it. -/
abbrev Instruction := Operation UInt8 Nibble Address

/-- The opcode of an operation with all operand bits clear. -/
def Operation.template {Byte Nibble Addr : Type} : Operation Byte Nibble Addr → Nat
  | .sys _ => 0x0000
  | .clear => 0x00E0
  | .ret => 0x00EE
  | .jump _ => 0x1000
  | .call _ => 0x2000
  | .skipEqual _ _ => 0x3000
  | .skipUnequal _ _ => 0x4000
  | .skipSame _ _ => 0x5000
  | .load _ _ => 0x6000
  | .add _ _ => 0x7000
  | .copy _ _ => 0x8000
  | .or _ _ => 0x8001
  | .and _ _ => 0x8002
  | .xor _ _ => 0x8003
  | .addRegister _ _ => 0x8004
  | .sub _ _ => 0x8005
  | .shiftRight _ _ => 0x8006
  | .subFrom _ _ => 0x8007
  | .shiftLeft _ _ => 0x800E
  | .skipDifferent _ _ => 0x9000
  | .loadIndex _ => 0xA000
  | .jumpOffset _ => 0xB000
  | .random _ _ => 0xC000
  | .draw _ _ _ => 0xD000
  | .skipPressed _ => 0xE09E
  | .skipReleased _ => 0xE0A1
  | .readDelay _ => 0xF007
  | .waitKey _ => 0xF00A
  | .setDelay _ => 0xF015
  | .setSound _ => 0xF018
  | .addIndex _ => 0xF01E
  | .loadGlyph _ => 0xF029
  | .storeDecimal _ => 0xF033
  | .storeRegisters _ => 0xF055
  | .loadRegisters _ => 0xF065

end ChipEight
