import ChipEight.Assembly.Item
import ChipEight.Proofs.Assembly.Numeral

/-!
# The reference assembler

What labels and commands mean as a program, said in the order of the manual and not in the order of
two passes: a table of addresses is read off the items first, every command is turned into an
instruction with operands in range, and every instruction has its word in a table. There is no state
and there are no errors, only programs and `none`.
-/

namespace ChipEight

/-- The word of an instruction. -/
def Instruction.word : Instruction → Nat
  | .clear => 0x00E0
  | .ret => 0x00EE
  | .sys target => target.val
  | .jump target => 0x1000 + target.val
  | .call target => 0x2000 + target.val
  | .skipEqual x value => 0x3000 + 0x100 * x.val + value.toNat
  | .skipUnequal x value => 0x4000 + 0x100 * x.val + value.toNat
  | .skipSame x y => 0x5000 + 0x100 * x.val + 0x10 * y.val
  | .load x value => 0x6000 + 0x100 * x.val + value.toNat
  | .add x value => 0x7000 + 0x100 * x.val + value.toNat
  | .copy x y => 0x8000 + 0x100 * x.val + 0x10 * y.val
  | .or x y => 0x8001 + 0x100 * x.val + 0x10 * y.val
  | .and x y => 0x8002 + 0x100 * x.val + 0x10 * y.val
  | .xor x y => 0x8003 + 0x100 * x.val + 0x10 * y.val
  | .addRegister x y => 0x8004 + 0x100 * x.val + 0x10 * y.val
  | .sub x y => 0x8005 + 0x100 * x.val + 0x10 * y.val
  | .shiftRight x y => 0x8006 + 0x100 * x.val + 0x10 * y.val
  | .subFrom x y => 0x8007 + 0x100 * x.val + 0x10 * y.val
  | .shiftLeft x y => 0x800E + 0x100 * x.val + 0x10 * y.val
  | .skipDifferent x y => 0x9000 + 0x100 * x.val + 0x10 * y.val
  | .loadIndex target => 0xA000 + target.val
  | .jumpOffset target => 0xB000 + target.val
  | .random x mask => 0xC000 + 0x100 * x.val + mask.toNat
  | .draw x y rows => 0xD000 + 0x100 * x.val + 0x10 * y.val + rows.val
  | .skipPressed x => 0xE09E + 0x100 * x.val
  | .skipReleased x => 0xE0A1 + 0x100 * x.val
  | .readDelay x => 0xF007 + 0x100 * x.val
  | .waitKey x => 0xF00A + 0x100 * x.val
  | .setDelay x => 0xF015 + 0x100 * x.val
  | .setSound x => 0xF018 + 0x100 * x.val
  | .addIndex x => 0xF01E + 0x100 * x.val
  | .loadGlyph x => 0xF029 + 0x100 * x.val
  | .storeDecimal x => 0xF033 + 0x100 * x.val
  | .storeRegisters x => 0xF055 + 0x100 * x.val
  | .loadRegisters x => 0xF065 + 0x100 * x.val

namespace Operation

variable {Byte Nibble Addr Byte' Nibble' Addr' : Type}

/-- The operation with other operands, if there are such for all of its own. -/
def traverse (byte : Byte → Option Byte') (nibble : Nibble → Option Nibble')
    (address : Addr → Option Addr') :
    Operation Byte Nibble Addr → Option (Operation Byte' Nibble' Addr')
  | .clear => some .clear
  | .ret => some .ret
  | .sys target => .sys <$> address target
  | .jump target => .jump <$> address target
  | .call target => .call <$> address target
  | .skipEqual x value => .skipEqual x <$> byte value
  | .skipUnequal x value => .skipUnequal x <$> byte value
  | .skipSame x y => some (.skipSame x y)
  | .load x value => .load x <$> byte value
  | .add x value => .add x <$> byte value
  | .copy x y => some (.copy x y)
  | .or x y => some (.or x y)
  | .and x y => some (.and x y)
  | .xor x y => some (.xor x y)
  | .addRegister x y => some (.addRegister x y)
  | .sub x y => some (.sub x y)
  | .shiftRight x y => some (.shiftRight x y)
  | .subFrom x y => some (.subFrom x y)
  | .shiftLeft x y => some (.shiftLeft x y)
  | .skipDifferent x y => some (.skipDifferent x y)
  | .loadIndex target => .loadIndex <$> address target
  | .jumpOffset target => .jumpOffset <$> address target
  | .random x mask => .random x <$> byte mask
  | .draw x y rows => .draw x y <$> nibble rows
  | .skipPressed x => some (.skipPressed x)
  | .skipReleased x => some (.skipReleased x)
  | .readDelay x => some (.readDelay x)
  | .waitKey x => some (.waitKey x)
  | .setDelay x => some (.setDelay x)
  | .setSound x => some (.setSound x)
  | .addIndex x => some (.addIndex x)
  | .loadGlyph x => some (.loadGlyph x)
  | .storeDecimal x => some (.storeDecimal x)
  | .storeRegisters x => some (.storeRegisters x)
  | .loadRegisters x => some (.loadRegisters x)

end Operation

namespace Assembly.Reference

/-- A number, if it is below the limit. -/
def below? (limit n : Nat) : Option (Fin limit) :=
  if h : n < limit then some ⟨n, h⟩ else none

/-- The number that is written. -/
def number : Literal → Nat
  | ⟨.decimal, digits⟩ => Numeral.value 10 digits
  | ⟨.hexadecimal, digits⟩ => Numeral.value 16 digits
  | ⟨.binary, digits⟩ => Numeral.value 2 digits

/-- The assembler reads the number that is written. -/
theorem number_eq_value (l : Literal) : number l = l.value := by
  rw [Literal.value_eq]
  obtain ⟨radix, digits⟩ := l
  cases radix <;> rfl

/-- A number that is written where a byte is wanted. -/
def byte? (l : Literal) : Option UInt8 :=
  UInt8.ofFin <$> below? 0x100 (number l)

/-- A number that is written where half a byte is wanted. -/
def nibble? (l : Literal) : Option (Fin 0x10) :=
  below? 0x10 (number l)

/-- The number of bytes that an item comes to. -/
def size : Item → Nat
  | .command (.operation _) => 2
  | .command (.data values) => values.length
  | .label _ | .unknown _ => 0

/-- The labels among items with the addresses they stand for, where `address` is that of the first
    item. -/
def addresses : (address : Nat) → List Item → List (String × Nat)
  | _, [] => []
  | address, .label name :: items => (name, address) :: addresses address items
  | address, item :: items => addresses (address + size item) items

/-- The address that a target stands for. -/
def address? (labels : List (String × Nat)) : Target → Option Address
  | .number literal => below? 0x1000 (number literal)
  | .label name => (labels.lookup name).bind (below? 0x1000)

/-- The instruction that an operation of a text stands for: its numbers are those written, and its
    label is an address. -/
def resolved? (labels : List (String × Nat)) (op : Operation Literal Literal Target) :
    Option Instruction :=
  op.traverse byte? nibble? (address? labels)

/-- The bytes of an item. -/
def bytes? (labels : List (String × Nat)) : Item → Option (List UInt8)
  | .label _ => some []
  | .command (.operation op) => do
    let instruction ← resolved? labels op
    return [UInt8.ofNat (instruction.word / 0x100), UInt8.ofNat (instruction.word % 0x100)]
  | .command (.data values) => values.mapM byte?
  | .unknown _ => none

/-- The program that items make, which lies behind the first 0x200 bytes of memory: there is one if
    no label is defined twice, all operands are in range and all labels in use are addresses, and it
    is no longer than the rest of the 0x1000 bytes. -/
def assemble? (items : List Item) : Option (List UInt8) := do
  let labels := addresses 0x200 items
  guard (labels.map Prod.fst).Nodup
  let program := (← items.mapM (bytes? labels)).flatten
  guard (program.length ≤ 3584)
  return program

end Assembly.Reference

end ChipEight
