import ChipEight.Proofs.Machine.Invariant
import ChipEight.Proofs.Pattern

/-!
# When a step faults

`Machine.dueFault?` tells from the state of a machine which fault its next step is going to raise,
if any. The causes come in the order in which a step gets to them: an instruction that does not lie
in memory, a word that is no instruction, a call on a full stack or a return on an empty one, and a
block of data that does not lie in memory. A step raises just that fault, and else succeeds
(`step_error_iff`).
-/

namespace ChipEight.Machine

open Opcode (Matches MatchesOne pattern patterns matches_iff_of_decode?)

/-- The word at the program counter, its first byte being the high one. -/
def opcode (m : Machine) : Nat :=
  0x100 * (m.memory.bytes.getD m.pc.toNat 0).toNat +
    (m.memory.bytes.getD (m.pc.toNat + 1) 0).toNat

/-- The number of bytes, from the index register on, that an opcode reads or writes. -/
def blockLength? (opcode : Nat) : Option Nat :=
  if Matches "DXYN" opcode then some (Opcode.n opcode).val
  else if Matches "FX33" opcode then some 3
  else if Matches "FX55" opcode ∨ Matches "FX65" opcode then some ((Opcode.x opcode).val + 1)
  else none

/-- The fault of a block of some length at the index register. -/
def blockFault? (m : Machine) (length : Nat) : Option Fault :=
  if 0x1000 < m.index + length then some (.memory (max m.index 0x1000)) else none

/-- The fault that the next step raises. -/
def dueFault? (m : Machine) : Option Fault :=
  if 0x1000 < m.pc + 2 then some (.memory (max m.pc 0x1000))
  else if ¬ MatchesOne patterns m.opcode then some (.unknownOpcode m.opcode m.pc)
  else if Matches "2NNN" m.opcode ∧ m.stack.depth = 16 then some (.stackOverflow m.pc)
  else if Matches "00EE" m.opcode ∧ m.stack.depth = 0 then some (.stackUnderflow m.pc)
  else (blockLength? m.opcode).bind m.blockFault?

/-! ## Instructions -/

/-- A computation raises a fault and leaves the machine as it was, or it succeeds, if there is no
    fault to raise. -/
def Raises {α : Type} (m : Machine) (computation : Exec α) : Option Fault → Prop
  | some fault => computation m = .error fault m
  | none => ∃ a m', computation m = .ok a m'

/-- It is enough to know what the computation comes to in the machine. -/
theorem Raises.congr {α : Type} {m : Machine} {computation other : Exec α} {fault? : Option Fault}
    (h : m.Raises computation fault?) (same : other m = computation m) :
    m.Raises other fault? := by
  cases fault? with
  | none =>
    obtain ⟨a, m', succeeded⟩ := h
    exact ⟨a, m', same.trans succeeded⟩
  | some fault => exact same.trans h

/-- The fault that an instruction raises. -/
def refusal? (m : Machine) : Instruction → Option Fault
  | .ret => if m.stack.depth = 0 then some (.stackUnderflow m.pc) else none
  | .call _ => if m.stack.depth = 16 then some (.stackOverflow m.pc) else none
  | .draw _ _ rows => m.blockFault? rows.val
  | .storeDecimal _ => m.blockFault? 3
  | .storeRegisters x | .loadRegisters x => m.blockFault? (x.val + 1)
  | _ => none

theorem raises_performReturn (m : Machine) : m.Raises performReturn (m.refusal? .ret) := by
  obtain ⟨random, memory, keypad, timers, display, registers, index, pc, ⟨slots, depth, bound⟩⟩ := m
  cases depth with
  | zero => rfl
  | succ depth => exact ⟨_, _, rfl⟩

theorem raises_performCall (m : Machine) (target : Address) :
    m.Raises (performCall target) (m.refusal? (.call target)) := by
  have pushes := m.stack.push?_isSome m.pc
  by_cases full : m.stack.depth = 16
  · obtain noSlot : m.stack.push? m.pc = none := by simpa [full] using pushes
    rw [refusal?, if_pos full, Raises, performCall_apply, noSlot]
  · obtain ⟨stack, pushed⟩ := Option.isSome_iff_exists.mp
      (pushes.trans (decide_eq_true (Nat.lt_of_le_of_ne m.stack.depth_le full)))
    rw [refusal?, if_neg full, Raises, performCall_apply, pushed]
    exact ⟨_, _, rfl⟩

theorem raises_performWrite {m : Machine} (h : m.Invariant) (block : List UInt8) :
    m.Raises (performWrite block) (m.blockFault? block.length) := by
  have size := h.memory_size
  by_cases far : 0x1000 < m.index + block.length
  · have refused := m.memory.writeBlock_of_behind h.index.1 (size ▸ far)
    rw [blockFault?, if_pos far, Raises, performWrite_apply, refused, size]
  · obtain ⟨memory, written⟩ := h.exists_written block (Int.not_lt.mp far)
    rw [blockFault?, if_neg far, Raises, performWrite_apply, written]
    exact ⟨_, _, rfl⟩

/-- Whatever reads a block raises the fault of that block. -/
theorem raises_read {m : Machine} (h : m.Invariant) {computation : Exec Advance} {length : Nat}
    (fails : ∀ fault, m.memory.readBlock m.index length = .error fault →
      computation m = .error fault m)
    (succeeds : ∀ block, m.memory.readBlock m.index length = .ok block →
      ∃ advance m', computation m = .ok advance m') :
    m.Raises computation (m.blockFault? length) := by
  have size := h.memory_size
  by_cases far : 0x1000 < m.index + length
  · have refused := m.memory.readBlock_of_behind h.index.1 (size ▸ far)
    rw [size] at refused
    rw [blockFault?, if_pos far, Raises, fails _ refused]
  · obtain ⟨block, read⟩ := h.exists_read length (Int.not_lt.mp far)
    rw [blockFault?, if_neg far, Raises]
    exact succeeds _ read

/-- Every instruction raises just the fault that it is said to raise. -/
theorem raises_perform {m : Machine} (h : m.Invariant) (i : Instruction) :
    m.Raises (perform i) (m.refusal? i) := by
  cases i with
  | ret => exact m.raises_performReturn
  | call target => exact m.raises_performCall target
  | draw x y rows =>
    refine raises_read h (fun fault refused => ?_) (fun block read => ?_)
    · rw [perform, performDraw_apply, refused]
    · rw [perform, performDraw_apply, read]
      exact ⟨_, _, rfl⟩
  | storeDecimal x =>
    exact (raises_performWrite h [_, _, _]).congr (perform_storeDecimal x m)
  | storeRegisters x =>
    have raises := raises_performWrite h (m.registers.toList.take (x.val + 1))
    rw [List.length_take, Vector.length_toList, Nat.min_eq_left (Nat.succ_le_of_lt x.isLt)] at raises
    exact raises.congr (perform_storeRegisters x m)
  | loadRegisters x =>
    refine raises_read h (fun fault refused => ?_) (fun block read => ?_)
    · rw [perform, performRead_apply, (Memory.readVector_eq_error_iff _ _ _ _).mpr refused]
    · obtain ⟨block, -, read⟩ := Memory.exists_readVector read
      rw [perform, performRead_apply, read]
      exact ⟨_, _, rfl⟩
  | random x mask =>
    -- There is a byte, whatever state the source is in.
    obtain ⟨b, source, taken, -⟩ := next?_of_endless h.random
    exact ⟨_, _, by rw [perform, performRandom_apply, taken]⟩
  | waitKey x =>
    cases pressed : m.keypad.firstPressed? with
    | none => exact ⟨_, _, by rw [perform, performWaitKey_apply, pressed]⟩
    | some key => exact ⟨_, _, by rw [perform, performWaitKey_apply, pressed]⟩
  | _ => exact ⟨_, _, rfl⟩

/-! ## Steps -/

theorem readWord_inside {m : Machine} (low : 0 ≤ m.pc) (near : m.pc + 2 ≤ m.memory.size) :
    m.memory.readWord m.pc = .ok m.opcode := by
  have place : m.pc = (m.pc.toNat : Int) := (Int.toNat_of_nonneg low).symm
  rw [Memory.size] at near
  have first : m.pc.toNat < m.memory.bytes.size := by omega
  have second : m.pc.toNat + 1 < m.memory.bytes.size := by omega
  rw [place, Memory.readWord_of_getElem? (Array.getElem?_eq_getElem first)
    (Array.getElem?_eq_getElem second), opcode, ← Array.getElem_eq_getD, ← Array.getElem_eq_getD]

/-- The fault of a step, as its opcode tells it, is the fault of its instruction. -/
theorem dueFault?_of_decode? {m : Machine} {i : Instruction} (near : ¬ 0x1000 < m.pc + 2)
    (bound : m.opcode < 0x10000) (decoded : Opcode.decode? m.opcode = some i) :
    m.dueFault? = m.refusal? i := by
  have word := Opcode.word_of_decode? bound decoded
  have listed := (Opcode.decode?_isSome_iff bound).mp ⟨i, decoded⟩
  have is (p : String) (special : p ∈ patterns ∧ p ≠ "0NNN") :
      Matches p m.opcode ↔ pattern i = p :=
    matches_iff_of_decode? bound decoded special.1 special.2
  rw [dueFault?, if_neg near, if_neg (not_not.mpr listed)]
  -- What the opcode matches is a question about the pattern of the instruction.
  simp only [blockLength?, is "2NNN" (by decide), is "00EE" (by decide), is "DXYN" (by decide),
    is "FX33" (by decide), is "FX55" (by decide), is "FX65" (by decide)]
  rw [← word]
  cases i with
  | draw x y rows =>
    have field : Opcode.n (Instruction.word (.draw x y rows)) = rows :=
      Opcode.n_eq (by simp only [Instruction.word]; omega)
    simp [pattern, refusal?, field]
  | storeRegisters x =>
    have field : Opcode.x (Instruction.word (.storeRegisters x)) = x := Opcode.x_word rfl
    simp [pattern, refusal?, field]
  | loadRegisters x =>
    have field : Opcode.x (Instruction.word (.loadRegisters x)) = x := Opcode.x_word rfl
    simp [pattern, refusal?, field]
  | _ => simp [pattern, refusal?]

/-- Moving the program counter does not fault. -/
theorem Raises.advance {m : Machine} {i : Instruction} {fault? : Option Fault}
    (h : m.Raises (perform i) fault?) : m.Raises (performAndAdvance i) fault? := by
  cases fault? with
  | none =>
    obtain ⟨advance, m', succeeded⟩ := h
    exact ⟨_, _, by rw [performAndAdvance_apply, succeeded]⟩
  | some fault =>
    rw [Raises] at h ⊢
    rw [performAndAdvance_apply, h]

theorem raises_step {m : Machine} (h : m.Invariant) : m.Raises step m.dueFault? := by
  have size := h.memory_size
  by_cases far : 0x1000 < m.pc + 2
  · have refused := m.memory.readWord_of_behind h.pc.1 (size ▸ far)
    rw [size] at refused
    rw [dueFault?, if_pos far, Raises, step_eq, current_of_fault refused]
  · have read := readWord_inside h.pc.1 (by omega)
    have bound := (Memory.readWord_eq_ok read).2.2
    cases decoded : Opcode.decode? m.opcode with
    | none =>
      have unlisted : ¬ MatchesOne patterns m.opcode := by
        rw [← Opcode.decode?_isSome_iff bound, decoded]
        simp
      rw [dueFault?, if_neg far, if_pos unlisted, Raises, step_eq, current_of_read read,
        Machine.decoded, decoded]
    | some i =>
      rw [dueFault?_of_decode? far bound decoded]
      refine (raises_perform h i).advance.congr ?_
      rw [step_eq, current_of_read read, Machine.decoded, decoded]

/-- A step faults exactly if a fault is due, with just that fault, and then it leaves the machine as
    it was. In every other case it succeeds. -/
theorem step_error_iff (m : Machine) (h : m.Invariant) :
    (∀ fault m', step m = .error fault m' ↔ m.dueFault? = some fault ∧ m' = m) ∧
      ((∃ advance m', step m = .ok advance m') ↔ m.dueFault? = none) := by
  have raises := raises_step h
  cases due : m.dueFault? with
  | none =>
    rw [due] at raises
    obtain ⟨advance, m₁, succeeded⟩ := raises
    rw [succeeded]
    simp
  | some fault =>
    rw [due] at raises
    rw [show step m = .error fault m from raises]
    simp [eq_comm]

/-- A sprite without rows can lie at the end of memory, but not behind it. -/
theorem step_error_iff_empty_sprite :
    ∃ memory, Memory.ofSize.load [0xD0, 0x10] = .ok memory ∧
      let near : Machine := { random := .ofList [1], memory, index := 0x1000 }
      let far : Machine := { random := .ofList [1], memory, index := 0x1001 }
      near.Invariant ∧ far.Invariant ∧ (∃ advance m', step near = .ok advance m') ∧
        step far = .error (.memory 0x1001) far := by
  have new : Invariant { random := .ofList [1] } := invariant_new (Nat.succ_pos 0)
  obtain ⟨memory, loaded, bytes⟩ := Memory.load_eq_ok Memory.ofSize [0xD0, 0x10] (by
    rw [Memory.size_ofSize]
    decide)
  have size : memory.size = Memory.capacity := (Memory.size_of_load loaded).trans new.memory
  have kept (index : Int) (inside : 0 ≤ index ∧ index ≤ 0xFFFF) :
      Invariant { random := .ofList [1], memory, index } :=
    ⟨inside, new.pc, new.slots, new.delay, new.sound, size, new.random⟩
  have due (index : Int) :
      dueFault? { random := .ofList [1], memory, index } =
        blockFault? { random := .ofList [1], memory, index } 0 := by
    have word : opcode { random := .ofList [1], memory, index } = 0xD010 := by
      simp only [opcode, Array.getD_eq_getD_getElem?, bytes]
      rfl
    have fetched : ¬ (0x1000 : Int) < Memory.romBase + 2 := by decide
    rw [dueFault?, word, if_neg fetched, if_neg (by decide),
      if_neg fun isCall => absurd isCall.1 (by decide),
      if_neg fun isReturn => absurd isReturn.1 (by decide)]
    rfl
  have near := kept 0x1000 (by decide)
  have far := kept 0x1001 (by decide)
  exact ⟨memory, loaded, near, far, (step_error_iff _ near).2.mpr ((due _).trans rfl),
    ((step_error_iff _ far).1 _ _).mpr ⟨(due _).trans rfl, rfl⟩⟩

end ChipEight.Machine
