import ChipEight.Text.Hexadecimal

/-!
# Faults

What stops a machine. A fault names its cause and the numbers that belong to it; the wording is
`Fault.message`.
-/

namespace ChipEight

inductive Fault
  /-- A subroutine call at `pc` found all stack slots in use. -/
  | stackOverflow (pc : Int)
  /-- A return at `pc` found no stack slot in use. -/
  | stackUnderflow (pc : Int)
  /-- The first address outside memory that an access needed. -/
  | memory (address : Int)
  | unknownOpcode (opcode pc : Int)
  /-- A program of `size` bytes was to be loaded where only `available` bytes are. -/
  | romTooLarge (size : Nat) (available : Int)
  /-- The opcode is no 16-bit word, so what stands in front of its low three nibbles is no
      family. -/
  | opcodeTooWide (opcode : Int)
  /-- A random byte was asked of a source that replays an empty sequence. -/
  | noRandomByte
  deriving DecidableEq, Repr

def Fault.message : Fault → String
  | .stackOverflow pc => s!"Stack overflow @ 0x{Text.Hexadecimal.ofInt pc 3}"
  | .stackUnderflow pc => s!"Stack underflow @ 0x{Text.Hexadecimal.ofInt pc 3}"
  | .memory address => s!"Memory access out of range 0x{Text.Hexadecimal.ofInt address}"
  | .unknownOpcode opcode pc =>
    s!"Unknown opcode 0x{Text.Hexadecimal.ofInt opcode 4} @ 0x{Text.Hexadecimal.ofInt pc 3}"
  | .romTooLarge size available => s!"ROM of {size} bytes exceeds {available} available bytes"
  | .opcodeTooWide opcode =>
    let family := opcode / 0x1000
    if -0x8000000000000000 ≤ family ∧ family < 0x8000000000000000 then "list index out of range"
    else "cannot fit 'int' into an index-sized integer"
  | .noRandomByte => "integer modulo by zero"

end ChipEight
