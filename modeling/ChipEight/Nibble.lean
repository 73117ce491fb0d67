/-!
# Nibbles

Half bytes. Registers and keys are numbered by them, and an opcode is made of four.
-/

namespace ChipEight

abbrev Nibble := Fin 16

/-- There are nibbles, so that they can be written as numbers. -/
instance nibble_neZero : @NeZero Nat (@Zero.ofOfNat0 Nat (instOfNatNat 0)) 16 := ⟨Nat.succ_ne_zero 15⟩

def Nibble.ofInt (n : Int) : Nibble := ⟨(n % 16).toNat, by omega⟩

end ChipEight
