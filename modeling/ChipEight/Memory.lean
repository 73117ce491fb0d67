import ChipEight.Fault
import ChipEight.Font
import ChipEight.Slice

/-!
# Memory

A row of bytes with the glyphs at its start and the program from `Memory.romBase`. Every access is
checked before anything is read or written: an access that does not fit names the first address
outside memory and changes nothing. Addresses are integers, since a program can form addresses that
no memory has.
-/

namespace ChipEight

/-- The bytes of a memory, by address. -/
structure Memory where
  bytes : Array UInt8
  deriving DecidableEq, Repr

namespace Memory

/-- The number of bytes in a machine's memory. -/
def capacity : Nat := 0x1000

/-- The address of a program's first byte. -/
def romBase : Nat := 0x200

def size (m : Memory) : Nat := m.bytes.size

/-- Puts the glyphs in the place of the first bytes. -/
def loadFont (m : Memory) : Memory :=
  ⟨splice m.bytes 0 Font.glyphs.length Font.glyphs⟩

/-- Cleared memory of `size` bytes with the glyphs in place; the glyphs make a smaller one as long
    as they are. -/
def ofSize (size : Nat := capacity) : Memory :=
  loadFont ⟨Array.replicate size 0⟩

inductive SizeError
  | negative
  /-- The number needs more than sixty-four bits. -/
  | tooWide
  /-- No host has that many. -/
  | tooMany
  deriving DecidableEq, Repr

/-- The wording of an error. There is none for bytes that the host lacks. -/
def SizeError.message : SizeError → String
  | .negative => "negative count"
  | .tooWide => "cannot fit 'int' into an index-sized integer"
  | .tooMany => ""

/-- The most bytes that a host is asked for. -/
def hostCapacity : Nat := 0x1000000000

/-- A number of bytes as a count, if a host can have so many. A negative number is none of them. -/
def countOfInt (count : Int) : Except SizeError Nat :=
  if count < -0x8000000000000000 ∨ 0x8000000000000000 ≤ count then .error .tooWide
  else if hostCapacity < count then .error .tooMany
  else .ok count.toNat

/-- Memory of a size that may be no size at all. -/
def ofInt (size : Int) : Except SizeError Memory := do
  let count ← countOfInt size
  if size < 0 then throw .negative
  return ofSize count

/-- Faults unless the addresses from `address` up to, but not including, `address + length` lie in
    memory. -/
def check (m : Memory) (address : Int) (length : Int := 1) : Except Fault Unit :=
  if address < 0 then .error (.memory address)
  else if (m.size : Int) < address + length then .error (.memory (max address m.size))
  else .ok ()

theorem check_eq_ok_iff (m : Memory) (address length : Int) :
    m.check address length = .ok () ↔ 0 ≤ address ∧ address + length ≤ m.size := by
  unfold check
  split
  · simp; omega
  · split <;> simp <;> omega

/-- The `length` bytes from `address` on. -/
def readBlock (m : Memory) (address length : Int) : Except Fault (List UInt8) := do
  m.check address length
  -- A negative length passes the check if its address is not negative. The bytes then run up to
  -- `address + length`, which counts from the end of memory when it is below zero.
  let stop := address + length
  let stop := if stop < 0 then stop + m.size else stop
  return (m.bytes.extract address.toNat stop.toNat).toList

/-- A block is read exactly if it lies in memory, and then it is the bytes from its address on. -/
theorem readBlock_eq_ok_iff (m : Memory) (address : Int) (length : Nat) (block : List UInt8) :
    m.readBlock address length = .ok block ↔
      0 ≤ address ∧ address + length ≤ m.size ∧
        block = (m.bytes.toList.drop address.toNat).take length := by
  have checked := m.check_eq_ok_iff address length
  cases outcome : m.check address length with
  | error fault =>
    simp only [readBlock, outcome]
    have refused : ¬(0 ≤ address ∧ address + (length : Int) ≤ m.size) := by
      rw [← checked, outcome]
      simp
    constructor
    · intro h
      cases h
    · rintro ⟨low, high, -⟩
      exact absurd ⟨low, high⟩ refused
  | ok =>
    obtain ⟨low, high⟩ := checked.mp outcome
    have stop : (address + (length : Int)).toNat = address.toNat + length := by omega
    -- No block of a length that is not negative is counted from the end of memory.
    have forward : ¬(address + (length : Int) < 0) := by omega
    simp only [readBlock, outcome, if_neg forward, stop]
    change Except.ok (m.bytes.extract address.toNat (address.toNat + length)).toList =
      Except.ok block ↔ _
    rw [Array.toList_extract, List.extract_eq_take_drop, Nat.add_sub_cancel_left, Except.ok.injEq]
    constructor
    · intro h
      exact ⟨low, high, h.symm⟩
    · rintro ⟨-, -, h⟩
      exact h.symm

theorem length_of_readBlock {m : Memory} {address : Int} {length : Nat} {block : List UInt8}
    (h : m.readBlock address length = .ok block) : block.length = length := by
  obtain ⟨low, high, rfl⟩ := (m.readBlock_eq_ok_iff address length block).mp h
  have bound : address + (length : Int) ≤ m.bytes.toList.length := high
  rw [List.length_take, List.length_drop]
  omega

/-- The `length` bytes from `address` on, which are as many as asked for. -/
def readVector (m : Memory) (address : Int) (length : Nat) : Except Fault (Vector UInt8 length) :=
  match read : m.readBlock address length with
  | .error fault => .error fault
  | .ok block => .ok ⟨block.toArray, length_of_readBlock read⟩

def writeBlock (m : Memory) (address : Int) (block : List UInt8) : Except Fault Memory := do
  m.check address block.length
  return ⟨splice m.bytes address.toNat (address.toNat + block.length) block⟩

/-- The word whose high byte is at `address` and whose low byte is at the next one. -/
def readWord (m : Memory) (address : Int) : Except Fault Nat := do
  let block ← m.readBlock address 2
  return block.foldl (fun word b => word * 256 + b.toNat) 0

/-- The number of bytes that a program can have; negative in a memory that does not reach to its
    place. -/
def available (m : Memory) : Int := m.size - romBase

def load (m : Memory) (rom : List UInt8) : Except Fault Memory :=
  if m.available < rom.length then .error (.romTooLarge rom.length m.available)
  else .ok ⟨splice m.bytes romBase (romBase + rom.length) rom⟩

end Memory

end ChipEight
