import ChipEight.Memory
import ChipEight.Stack
import ChipEight.Keypad
import ChipEight.Timers
import ChipEight.Display
import ChipEight.Random.Source
import ChipEight.Instruction

/-!
# The state of a machine

All that a program can see or change, and the operations on it that come from outside: loading a
program, the tick of the timers, and the keys.

The program counter, the index register and the stack slots are integers. What a program can put
into them is bounded, but that is a property of runs and no part of the type, because they can also
be set from outside.
-/

namespace ChipEight

structure Machine where
  random : Random.Source
  memory : Memory := .ofSize
  keypad : Keypad := {}
  timers : Timers := {}
  display : Display := {}
  registers : Vector UInt8 16 := Vector.replicate 16 0
  index : Int := 0
  pc : Int := Memory.romBase
  stack : Stack := {}
  deriving DecidableEq

/-- What a step did with the program counter. -/
inductive Advance
  /-- On to the next instruction. -/
  | next
  /-- Over the next instruction. -/
  | skip
  /-- To wherever the instruction said. -/
  | jump
  /-- Nowhere: the same instruction comes again. -/
  | again
  deriving DecidableEq, Repr

/-- A computation on a machine that a fault can end. It goes on from, and ends with, the state the
    machine is in, also when it faults. -/
abbrev Exec := EStateM Fault Machine

namespace Machine

def register (m : Machine) (x : Register) : UInt8 :=
  m.registers[x]

def setRegister (m : Machine) (x : Register) (value : UInt8) : Machine :=
  { m with registers := m.registers.set x value }

/-- Puts a result into a register and its flag into the flag register. -/
def setWithFlag (m : Machine) (x : Register) (value : UInt8) (flag : Bool) : Machine :=
  -- The flag comes last, so it stays also when the flag register is that of the result.
  (m.setRegister x value).setRegister .flag (if flag then 1 else 0)

/-- Puts a block in the place of the registers up to number `x`. It has a byte for each of them, so
    there are as many registers as before. -/
def setRegisters (m : Machine) (x : Register) (block : Vector UInt8 (x.val + 1)) : Machine :=
  { m with registers := ⟨splice m.registers.toArray 0 (x.val + 1) block.toList, by
      rw [size_splice, Vector.length_toList, Vector.size_toArray]
      omega⟩ }

def advance (m : Machine) : Advance → Machine
  | .next => { m with pc := (m.pc + 2) % 0x10000 }
  | .skip => { m with pc := (m.pc + 4) % 0x10000 }
  | .jump | .again => m

/-! ## From outside -/

def load (rom : List UInt8) : Exec Unit := do
  let m ← get
  match m.memory.load rom with
  | .ok memory => set { m with memory }
  | .error fault => throw fault

def tick (m : Machine) : Machine :=
  { m with timers := m.timers.tick }

def press (key : Key) (m : Machine) : Machine :=
  { m with keypad := m.keypad.press key }

def release (key : Key) (m : Machine) : Machine :=
  { m with keypad := m.keypad.release key }

end Machine

end ChipEight
