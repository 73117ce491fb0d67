import ChipEight.Machine.Basic
import Mathlib

/-!
# Registers

What is in a register after one, or a block of them, has been set.
-/

namespace ChipEight.Machine

@[simp] theorem register_setRegister_self (m : Machine) (x : Register) (value : UInt8) :
    (m.setRegister x value).register x = value := by
  simp [register, setRegister]

theorem register_setRegister_of_ne (m : Machine) {x r : Register} (value : UInt8) (other : r ≠ x) :
    (m.setRegister x value).register r = m.register r := by
  have apart : x.val ≠ r.val := fun same => other (Fin.ext same).symm
  simp [register, setRegister, Vector.getElem_set_ne, apart]

theorem setRegister_comm (m : Machine) {x y : Register} (first second : UInt8) (apart : x ≠ y) :
    (m.setRegister x first).setRegister y second =
      (m.setRegister y second).setRegister x first := by
  have apart : x.val ≠ y.val := fun same => apart (Fin.ext same)
  simp [setRegister, Vector.set_comm _ _ apart]

@[simp] theorem register_flag_setWithFlag (m : Machine) (x : Register) (value : UInt8) (flag : Bool) :
    (m.setWithFlag x value flag).register .flag = if flag then 1 else 0 :=
  register_setRegister_self _ _ _

/-- The result stays unless the flag takes its place. -/
theorem register_setWithFlag_self (m : Machine) {x : Register} (value : UInt8) (flag : Bool)
    (plain : x ≠ .flag) : (m.setWithFlag x value flag).register x = value := by
  rw [setWithFlag, register_setRegister_of_ne _ _ plain, register_setRegister_self]

theorem register_setWithFlag_of_ne (m : Machine) {x r : Register} (value : UInt8) (flag : Bool)
    (other : r ≠ x) (plain : r ≠ .flag) :
    (m.setWithFlag x value flag).register r = m.register r := by
  rw [setWithFlag, register_setRegister_of_ne _ _ plain, register_setRegister_of_ne _ _ other]

section

variable (m : Machine) {x : Register} (block : Vector UInt8 (x.val + 1))

theorem getElem?_registers_setRegisters (i : Nat) :
    (m.setRegisters x block).registers[i]? = if i ≤ x.val then block[i]? else m.registers[i]? := by
  have placed := getElem?_splice m.registers.toArray 0 block.toList (Nat.zero_le _) i
  simp only [Nat.zero_add, Nat.zero_le, true_and, Nat.sub_zero, Vector.length_toList,
    Nat.lt_succ_iff, Vector.getElem?_toList, Vector.getElem?_toArray] at placed
  rw [← Vector.getElem?_toArray, setRegisters, placed]

/-- The registers that a block has bytes for hold them. -/
theorem register_setRegisters {r : Register} (inside : r ≤ x) :
    block[r.val]? = some ((m.setRegisters x block).register r) := by
  have held := m.getElem?_registers_setRegisters block r.val
  rw [if_pos (Fin.le_def.mp inside)] at held
  exact held.symm.trans (Vector.getElem?_eq_getElem r.isLt)

theorem register_setRegisters_of_lt {r : Register} (behind : x < r) :
    (m.setRegisters x block).register r = m.register r := by
  have kept := m.getElem?_registers_setRegisters block r.val
  rw [if_neg (Nat.not_le_of_lt behind), Vector.getElem?_eq_getElem r.isLt,
    Vector.getElem?_eq_getElem r.isLt] at kept
  exact Option.some.inj kept

end

end ChipEight.Machine
