import ChipEight.Proofs.Machine.Outcome
import ChipEight.Proofs.Machine.Registers

/-!
# Arithmetic with a flag

The five instructions that leave a carry, the absence of a borrow, or the bit shifted out in the
flag register. They are one instruction with parameters: both operands are read, then the result is
written, and last the flag (`perform_arithmetic`). So the flag is right also where the flag register
is an operand or that of the result, and else result and flag together are the exact value
(`execute_arithmetic`).
-/

namespace ChipEight

inductive Arithmetic
  | add
  | sub
  | subFrom
  | shiftRight
  | shiftLeft
  deriving DecidableEq, Repr

namespace Arithmetic

def instruction (x y : Register) : Arithmetic → Instruction
  | add => .addRegister x y
  | sub => .sub x y
  | subFrom => .subFrom x y
  | shiftRight => .shiftRight x y
  | shiftLeft => .shiftLeft x y

/-- The byte that is left of the result. -/
def result (a b : UInt8) : Arithmetic → UInt8
  | add => a + b
  | sub => a - b
  | subFrom => b - a
  | shiftRight => a / 2
  | shiftLeft => a * 2

/-- The carry, the absence of a borrow, or the bit shifted out. -/
def flag (a b : Nat) : Arithmetic → Bool
  | add => 0x100 ≤ a + b
  | sub => b ≤ a
  | subFrom => a ≤ b
  | shiftRight => a.testBit 0
  | shiftLeft => a.testBit 7

/-- A result and its flag are together the exact value. -/
def Exact (a b result flag : Nat) : Arithmetic → Prop
  | add => result + 0x100 * flag = a + b
  | sub => result + b = a + 0x100 * (1 - flag)
  | subFrom => result + a = b + 0x100 * (1 - flag)
  | shiftRight => 2 * result + flag = a
  | shiftLeft => result + 0x100 * flag = 2 * a

/-! ## Bytes -/

theorem add_exact (a b : UInt8) :
    (a + b).toNat + 0x100 * (decide (0x100 ≤ a.toNat + b.toNat)).toNat = a.toNat + b.toNat := by
  have aBound := a.toNat_lt
  have bBound := b.toNat_lt
  rw [UInt8.toNat_add]
  by_cases carry : 0x100 ≤ a.toNat + b.toNat
  · rw [decide_eq_true carry, Bool.toNat_true]
    omega
  · rw [decide_eq_false carry, Bool.toNat_false]
    omega

theorem sub_exact (a b : UInt8) :
    (a - b).toNat + b.toNat = a.toNat + 0x100 * (1 - (decide (b.toNat ≤ a.toNat)).toNat) := by
  have aBound := a.toNat_lt
  have bBound := b.toNat_lt
  rw [UInt8.toNat_sub]
  by_cases enough : b.toNat ≤ a.toNat
  · rw [decide_eq_true enough, Bool.toNat_true]
    omega
  · rw [decide_eq_false enough, Bool.toNat_false]
    omega

theorem shiftRight_exact (a : UInt8) :
    2 * (a / 2).toNat + (a.toNat.testBit 0).toNat = a.toNat := by
  rw [UInt8.toNat_div, Nat.toNat_testBit, Nat.pow_zero, Nat.div_one]
  exact Nat.div_add_mod a.toNat 2

theorem shiftLeft_exact (a : UInt8) :
    (a * 2).toNat + 0x100 * (a.toNat.testBit 7).toNat = 2 * a.toNat := by
  have bound := a.toNat_lt
  have two : (2 : UInt8).toNat = 2 := rfl
  rw [UInt8.toNat_mul, two, Nat.toNat_testBit]
  omega

/-- Nothing is lost in any of the operations. -/
theorem exact_result (op : Arithmetic) (a b : UInt8) :
    op.Exact a.toNat b.toNat (op.result a b).toNat (op.flag a.toNat b.toNat).toNat := by
  cases op with
  | add => exact add_exact a b
  | sub => exact sub_exact a b
  | subFrom => exact sub_exact b a
  | shiftRight => exact shiftRight_exact a
  | shiftLeft => exact shiftLeft_exact a

end Arithmetic

/-! ## Instructions -/

namespace Machine

theorem perform_arithmetic (m : Machine) (op : Arithmetic) (x y : Register) :
    perform (op.instruction x y) m =
      .ok .next (m.setWithFlag x (op.result (m.register x) (m.register y))
        (op.flag (m.register x).toNat (m.register y).toNat)) := by
  cases op with
  | add | sub | subFrom => rfl
  | shiftRight =>
    have lowest : (m.register x % 2 == 1) = (m.register x).toNat.testBit 0 := by
      rw [Nat.testBit_zero, Bool.eq_iff_iff, beq_iff_eq, decide_eq_true_iff, ← UInt8.toNat_inj,
        UInt8.toNat_mod]
      rfl
    simp [perform, Arithmetic.instruction, Arithmetic.result, Arithmetic.flag, lowest]
  | shiftLeft =>
    have highest : decide (0x80 ≤ m.register x) = (m.register x).toNat.testBit 7 := by
      have bound := (m.register x).toNat_lt
      rw [Nat.testBit_eq_decide_div_mod_eq, decide_eq_decide, UInt8.le_iff_toNat_le]
      change 0x80 ≤ (m.register x).toNat ↔ _
      omega
    simp [perform, Arithmetic.instruction, Arithmetic.result, Arithmetic.flag, highest]

/-- The flag register is left with the flag of the operands, whichever registers they are in. Unless
    the result was to go there too, the register of the result is left with what makes the flag
    exact. No other register changes, and nothing else but the program counter. -/
theorem execute_arithmetic (m : Machine) (op : Arithmetic) (x y : Register) :
    let a := (m.register x).toNat
    let b := (m.register y).toNat
    ∃ m', execute (op.instruction x y).word m = .ok .next m' ∧
      m'.register .flag = (if op.flag a b then 1 else 0) ∧
      (x ≠ .flag → op.Exact a b (m'.register x).toNat (m'.register .flag).toNat) ∧
      (∀ r, r ≠ x → r ≠ .flag → m'.register r = m.register r) ∧
      m' = { m with registers := m'.registers, pc := (m.pc + 2) % 0x10000 } := by
  intro a b
  let value := op.result (m.register x) (m.register y)
  have notCollides : ¬ Opcode.Collides (op.instruction x y) := by cases op <;> exact id
  refine ⟨(m.setWithFlag x value (op.flag a b)).advance .next, ?_, ?_, fun plain => ?_,
    fun r other plain => ?_, rfl⟩
  · rw [execute_word _ notCollides, performAndAdvance_apply, perform_arithmetic]
  · exact register_flag_setWithFlag m x value _
  · have kept : (m.setWithFlag x value (op.flag a b)).register x = value :=
      register_setWithFlag_self m value _ plain
    have flagged : ((m.setWithFlag x value (op.flag a b)).register .flag).toNat =
        (op.flag a b).toNat := by
      rw [register_flag_setWithFlag]
      cases op.flag a b <;> rfl
    change op.Exact a b ((m.setWithFlag x value (op.flag a b)).register x).toNat
      ((m.setWithFlag x value (op.flag a b)).register .flag).toNat
    rw [kept, flagged]
    exact op.exact_result (m.register x) (m.register y)
  · exact register_setWithFlag_of_ne m value _ other plain

end Machine

end ChipEight
