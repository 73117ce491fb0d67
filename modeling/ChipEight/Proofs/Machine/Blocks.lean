import ChipEight.Proofs.Machine.Parts

/-!
# Registers in memory

A program saves its first registers to a block of memory, and later it gets them back. Whatever it
executes in between, they come back as they were, as long as the block is not written to: that is
the frame of memory along a run (`ExecutesSparing.same`), with the two ends of a block read just as
they were written (`registers_survive`).
-/

namespace ChipEight.Machine

open Opcode (Matches)

/-! ## Runs -/

/-- The opcodes, executed one after the other, lead from `m` to `m'` without a fault, and none of
    them writes to one of the `length` bytes from `start` on. -/
def ExecutesSparing (start : Int) (length : Nat) (m : Machine) : List Nat → Machine → Prop
  | [], m' => m' = m
  | opcode :: opcodes, m' =>
    (∀ address : Nat, start ≤ address → address < start + length →
      ¬ MayChange m opcode (.byte address)) ∧
      ∃ advance m₁, execute opcode m = .ok advance m₁ ∧ ExecutesSparing start length m₁ opcodes m'

/-- Opcodes that do not write to memory spare all of it. -/
theorem ExecutesSparing.quiet {start : Int} {length opcode : Nat} {m m₁ m' : Machine}
    {advance : Advance} {opcodes : List Nat} (noDecimal : ¬ Matches "FX33" opcode)
    (noStore : ¬ Matches "FX55" opcode) (executed : execute opcode m = .ok advance m₁)
    (rest : m₁.ExecutesSparing start length opcodes m') :
    m.ExecutesSparing start length (opcode :: opcodes) m' := by
  refine ⟨fun address _ _ may => ?_, advance, m₁, executed, rest⟩
  obtain ⟨isDecimal, -⟩ | ⟨isStore, -⟩ := may
  · exact noDecimal isDecimal
  · exact noStore isStore

/-- The bytes that are spared are kept. -/
theorem ExecutesSparing.same {start : Int} {length : Nat} {m m' : Machine} {opcodes : List Nat}
    (h : m.ExecutesSparing start length opcodes m') {address : Nat} (low : start ≤ address)
    (high : address < start + length) : Part.Same m m' (.byte address) := by
  induction opcodes generalizing m with
  | nil =>
    obtain rfl : m' = m := h
    exact Part.same_refl m' _
  | cons opcode opcodes ih =>
    obtain ⟨spared, advance, m₁, executed, rest⟩ := h
    exact (same_of_execute executed (spared address low high)).trans (ih rest)

/-! ## Blocks of registers -/

/-- The registers up to `x`, in order. -/
def registersTo (m : Machine) (x : Register) : List UInt8 :=
  m.registers.toList.take (x.val + 1)

@[simp] theorem length_registersTo (m : Machine) (x : Register) :
    (m.registersTo x).length = x.val + 1 := by
  have := x.isLt
  simp only [registersTo, List.length_take, Vector.length_toList]
  omega

theorem getElem?_registers (m : Machine) (r : Register) :
    m.registers[r.val]? = some (m.register r) :=
  Vector.getElem?_eq_getElem r.isLt

theorem getElem?_registersTo (m : Machine) {x r : Register} (inside : r ≤ x) :
    (m.registersTo x)[r.val]? = some (m.register r) := by
  rw [registersTo, List.getElem?_take_of_lt (Nat.lt_succ_of_le inside), Vector.getElem?_toList,
    getElem?_registers]

/-- The registers that hold a block are that block. -/
theorem registersTo_setRegisters (m : Machine) {x : Register} (block : Vector UInt8 (x.val + 1)) :
    (m.setRegisters x block).registersTo x = block.toList := by
  apply List.ext_getElem?
  intro i
  by_cases inside : i < x.val + 1
  · have := x.isLt
    let r : Register := ⟨i, by omega⟩
    have within : r ≤ x := Nat.le_of_lt_succ inside
    rw [Vector.getElem?_toList]
    exact (getElem?_registersTo _ within).trans (m.register_setRegisters block within).symm
  · rw [List.getElem?_eq_none (by rw [length_registersTo]; omega),
      List.getElem?_eq_none (by rw [Vector.length_toList]; omega)]

/-! ## Instructions -/

/-- An instruction that writes a block changes memory and goes on. -/
theorem execute_write {i : Instruction} {m : Machine} {block : List UInt8} {memory : Memory}
    (performs : perform i m = performWrite block m) (notCollides : ¬ Opcode.Collides i)
    (written : m.memory.writeBlock m.index block = .ok memory) :
    execute i.word m = .ok .next { m with memory, pc := (m.pc + 2) % 0x10000 } := by
  rw [execute_word i notCollides, performAndAdvance_apply, performs, performWrite_apply]
  simp only [written, advance]

theorem execute_storeRegisters {m : Machine} {x : Register} {memory : Memory}
    (written : m.memory.writeBlock m.index (m.registersTo x) = .ok memory) :
    execute (Instruction.word (.storeRegisters x)) m =
      .ok .next { m with memory, pc := (m.pc + 2) % 0x10000 } :=
  execute_write (perform_storeRegisters x m) id written

theorem execute_loadRegisters {m : Machine} {x : Register} {block : Vector UInt8 (x.val + 1)}
    (read : m.memory.readVector m.index (x.val + 1) = .ok block) :
    execute (Instruction.word (.loadRegisters x)) m =
      .ok .next { m.setRegisters x block with pc := (m.pc + 2) % 0x10000 } := by
  rw [execute_word (.loadRegisters x) id, performAndAdvance_apply, perform, performRead_apply, read]
  rfl

/-- The decimal digits of a byte, the hundreds first. -/
def digits (b : UInt8) : List UInt8 :=
  [b / 100, b / 10 % 10, b % 10]

theorem length_digits (b : UInt8) : (digits b).length = 3 := rfl

theorem digits_exact (b : UInt8) :
    (∀ d ∈ digits b, d.toNat ≤ 9) ∧
      100 * (b / 100).toNat + 10 * (b / 10 % 10).toNat + (b % 10).toNat = b.toNat := by
  have bound := b.toNat_lt
  simp only [digits, List.forall_mem_cons, List.not_mem_nil, false_implies, implies_true, and_true,
    UInt8.toNat_div, UInt8.toNat_mod, UInt8.reduceToNat]
  omega

theorem execute_storeDecimal {m : Machine} {x : Register} {memory : Memory}
    (written : m.memory.writeBlock m.index (digits (m.register x)) = .ok memory) :
    execute (Instruction.word (.storeDecimal x)) m =
      .ok .next { m with memory, pc := (m.pc + 2) % 0x10000 } :=
  execute_write (perform_storeDecimal x m) id written

/-! ## Round trips -/

/-- Registers that have been saved come back as they were, after any run that spares their block and
    after which the index register points at it again. -/
theorem registers_restored {m : Machine} (h : m.Invariant) (x : Register)
    (fits : m.index + x.val < 0x1000) :
    ∃ m₁, execute (Instruction.word (.storeRegisters x)) m = .ok .next m₁ ∧
      ∀ opcodes m₂, m₁.ExecutesSparing m.index (x.val + 1) opcodes m₂ → m₂.index = m.index →
        ∃ m₃, execute (Instruction.word (.loadRegisters x)) m₂ = .ok .next m₃ ∧
          ∀ r ≤ x, m₃.register r = m.register r := by
  obtain ⟨memory, written⟩ := h.exists_written (m.registersTo x) (by
    rw [length_registersTo]
    omega)
  refine ⟨_, execute_storeRegisters written, fun opcodes m₂ run back => ?_⟩
  have saved := Memory.readBlock_of_writeBlock written
  rw [length_registersTo] at saved
  have read : m₂.memory.readBlock m₂.index (x.val + 1 : Nat) = .ok (m.registersTo x) := by
    rw [back]
    exact Memory.readBlock_congr saved (Nat.succ_pos _) fun address low high => run.same low high
  obtain ⟨block, same, read⟩ := Memory.exists_readVector read
  refine ⟨_, execute_loadRegisters read, fun r inside => ?_⟩
  have held := m₂.register_setRegisters block inside
  rw [← Vector.getElem?_toList, same, getElem?_registersTo m inside] at held
  exact (Option.some.inj held).symm

/-- Registers that have just been loaded are saved to where they came from without a trace. -/
theorem memory_restored {m : Machine} (h : m.Invariant) (x : Register)
    (fits : m.index + x.val < 0x1000) :
    ∃ m₁ m₂, execute (Instruction.word (.loadRegisters x)) m = .ok .next m₁ ∧
      execute (Instruction.word (.storeRegisters x)) m₁ = .ok .next m₂ ∧ m₂.memory = m.memory := by
  obtain ⟨block, read⟩ := h.exists_read (x.val + 1) (by omega)
  have written := Memory.writeBlock_of_readBlock read
  obtain ⟨bytes, rfl, loaded⟩ := Memory.exists_readVector read
  rw [← m.registersTo_setRegisters bytes] at written
  exact ⟨_, _, execute_loadRegisters loaded, execute_storeRegisters written, rfl⟩

/-- The decimal digits of a register that are stored come back in the first three. -/
theorem decimal_restored {m : Machine} (h : m.Invariant) (x : Register)
    (fits : m.index + 2 < 0x1000) :
    ∃ m₁ m₂, execute (Instruction.word (.storeDecimal x)) m = .ok .next m₁ ∧
      execute (Instruction.word (.loadRegisters 2)) m₁ = .ok .next m₂ ∧
      (∀ r ≤ 2, (m₂.register r).toNat ≤ 9) ∧
      100 * (m₂.register 0).toNat + 10 * (m₂.register 1).toNat + (m₂.register 2).toNat =
        (m.register x).toNat ∧
      (∀ address : Nat, ¬ (m.index ≤ address ∧ address ≤ m.index + 2) →
        m₂.memory.bytes[address]? = m.memory.bytes[address]?) ∧
      ∀ r, 2 < r → m₂.register r = m.register r := by
  let block := digits (m.register x)
  have length : block.length = 3 := length_digits _
  obtain ⟨memory, written⟩ := h.exists_written block (by omega)
  have read : memory.readBlock m.index ((2 : Register).val + 1 : Nat) = .ok block :=
    Memory.readBlock_of_writeBlock written
  obtain ⟨bytes, same, read⟩ := Memory.exists_readVector read
  let m₁ : Machine := { m with memory, pc := (m.pc + 2) % 0x10000 }
  have loaded : execute (Instruction.word (.loadRegisters 2)) m₁ = .ok .next
      { m₁.setRegisters 2 bytes with pc := (m₁.pc + 2) % 0x10000 } := execute_loadRegisters read
  -- The three registers hold the three digits.
  have held (r : Register) (inside : r ≤ 2) :
      block[r.val]? = some ((m₁.setRegisters 2 bytes).register r) := by
    rw [← same, Vector.getElem?_toList]
    exact m₁.register_setRegisters bytes inside
  obtain ⟨small, exact⟩ := digits_exact (m.register x)
  refine ⟨m₁, _, execute_storeDecimal written, loaded, fun r inside => ?_, ?_,
    fun address outside => ?_, fun r behind => ?_⟩
  · exact small _ (List.mem_of_getElem? (held r inside))
  · rw [← exact, Option.some.inj (held 0 (by decide)), Option.some.inj (held 1 (by decide)),
      Option.some.inj (held 2 (by decide))]
    rfl
  · exact Memory.getElem?_of_writeBlock written (by omega)
  · exact m₁.register_setRegisters_of_lt bytes behind

/-- What is saved to memory comes back. Registers that are saved and loaded again are as they were,
    whatever has been executed in between that has spared their block; registers that are loaded and
    saved again leave memory as it was; and the decimal digits of a register, saved and loaded, add
    up to it. -/
theorem registers_survive (m : Machine) (h : m.Invariant) (x : Register) :
    (m.index + x.val < 0x1000 →
      (∃ m₁, execute (Instruction.word (.storeRegisters x)) m = .ok .next m₁ ∧
        ∀ opcodes m₂, m₁.ExecutesSparing m.index (x.val + 1) opcodes m₂ → m₂.index = m.index →
          ∃ m₃, execute (Instruction.word (.loadRegisters x)) m₂ = .ok .next m₃ ∧
            ∀ r ≤ x, m₃.register r = m.register r) ∧
      ∃ m₁ m₂, execute (Instruction.word (.loadRegisters x)) m = .ok .next m₁ ∧
        execute (Instruction.word (.storeRegisters x)) m₁ = .ok .next m₂ ∧
          m₂.memory = m.memory) ∧
    (m.index + 2 < 0x1000 →
      ∃ m₁ m₂, execute (Instruction.word (.storeDecimal x)) m = .ok .next m₁ ∧
        execute (Instruction.word (.loadRegisters 2)) m₁ = .ok .next m₂ ∧
        (∀ r ≤ 2, (m₂.register r).toNat ≤ 9) ∧
        100 * (m₂.register 0).toNat + 10 * (m₂.register 1).toNat + (m₂.register 2).toNat =
          (m.register x).toNat ∧
        (∀ address : Nat, ¬ (m.index ≤ address ∧ address ≤ m.index + 2) →
          m₂.memory.bytes[address]? = m.memory.bytes[address]?) ∧
        ∀ r, 2 < r → m₂.register r = m.register r) :=
  ⟨fun fits => ⟨registers_restored h x fits, memory_restored h x fits⟩, decimal_restored h x⟩

/-- Registers 0 to 2 are saved to the last three bytes of memory. They come back although they have
    been changed, and register 0 has been saved elsewhere, in the meantime. -/
theorem registers_survive_end :
    let m : Machine :=
      { random := .ofList [1], index := 0xFFD,
        registers := #v[3, 200, 255, 0, 0, 0, 0, 0, 0, 0, 0, 0, 0, 0, 0, 0] }
    m.Invariant ∧ m.index + (2 : Register).val < 0x1000 ∧
      ∃ m₁ m₂ m₃, execute 0xF255 m = .ok .next m₁ ∧
        m₁.ExecutesSparing m.index 3 [0x6009, 0xA300, 0xF055, 0xAFFD] m₂ ∧
        m₂.index = m.index ∧ m₂.register 0 = 9 ∧ execute 0xF265 m₂ = .ok .next m₃ ∧
        m₃.register 0 = 3 ∧ m₃.register 1 = 200 := by
  intro m
  have new : Invariant { random := .ofList [1] } := invariant_new (Nat.succ_pos 0)
  have h : m.Invariant :=
    ⟨by decide, new.pc, new.slots, new.delay, new.sound, new.memory, new.random⟩
  have fits : m.index + (2 : Register).val < 0x1000 := by decide
  obtain ⟨m₁, saved, restored⟩ := ((registers_survive m h 2).1 fits).1
  obtain ⟨memory, written⟩ := h.exists_written (m.registersTo 2) (by decide)
  obtain ⟨-, rfl⟩ := EStateM.Result.ok.inj (saved.symm.trans (execute_storeRegisters written))
  -- The other block is written to the memory that holds the first one.
  have kept : (memory.size : Int) = 0x1000 := by
    rw [Memory.size_of_writeBlock written, h.memory_size]
  have elsewhere := (memory.writeBlock_eq_ok_iff _ 0x300 [9]).mpr
    ⟨by decide, by simp only [List.length_singleton]; omega, rfl⟩
  have run : ∃ m₂, ExecutesSparing m.index 3 { m with memory, pc := 0x202 }
      [0x6009, 0xA300, 0xF055, 0xAFFD] m₂ ∧ m₂.index = m.index ∧ m₂.register 0 = 9 := by
    refine ⟨_, .quiet (by decide) (by decide) (execute_word (.load 0 9) id _) <|
      .quiet (by decide) (by decide) (execute_word (.loadIndex 0x300) id _)
      ⟨fun address low _ => ?_, _, _, execute_storeRegisters (x := 0) elsewhere,
        .quiet (by decide) (by decide) (execute_word (.loadIndex 0xFFD) id _) rfl⟩, rfl, ?_⟩
    · rintro (⟨isDecimal, -⟩ | ⟨-, -, high⟩)
      · exact absurd isDecimal (by decide)
      · change (address : Int) ≤ 0x300 + 0 at high
        change (0xFFD : Int) ≤ address at low
        omega
    · exact register_setRegister_self _ 0 9
  obtain ⟨m₂, spares, back, changed⟩ := run
  obtain ⟨m₃, loaded, same⟩ := restored _ m₂ spares back
  exact ⟨h, fits, _, m₂, m₃, saved, spares, back, changed, loaded, same 0 (by decide),
    same 1 (by decide)⟩

end ChipEight.Machine
