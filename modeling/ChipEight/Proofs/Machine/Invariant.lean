import ChipEight.Proofs.Machine.Calls

/-!
# The bounds of a machine

What a program can put into a machine, however long it runs. The program counter stays below
`0x10FF`: a step leaves it behind an instruction that lay in memory, or puts it where an instruction
points, which is furthest in a jump by register 0. Only an address from which an instruction was
fetched is ever put on the stack. A step therefore fails in four ways only, and never for want of a
random byte or of a place to write to.
-/

namespace ChipEight

/-- The source never runs dry. -/
def Random.Source.Endless : Random.Source → Prop
  | .sequence values _ => 0 < values.size
  | .twister _ => True

/-- The faults that a step can raise. -/
def Fault.OfStep : Fault → Prop
  | .stackOverflow _ | .stackUnderflow _ | .memory _ | .unknownOpcode _ _ => True
  | .romTooLarge _ _ | .opcodeTooWide _ | .noRandomByte => False

namespace Machine

/-- The bounds that hold of a machine throughout its life, besides those that its type has. -/
structure Invariant (m : Machine) : Prop where
  index : 0 ≤ m.index ∧ m.index ≤ 0xFFFF
  pc : 0 ≤ m.pc ∧ m.pc ≤ 0x10FE
  slots : ∀ slot ∈ m.stack.slots, 0 ≤ slot ∧ slot ≤ 0xFFE
  delay : 0 ≤ m.timers.delay ∧ m.timers.delay ≤ 0xFF
  sound : 0 ≤ m.timers.sound ∧ m.timers.sound ≤ 0xFF
  memory : m.memory.size = Memory.capacity
  random : m.random.Endless

/-! ## The parts of a machine -/

theorem Invariant.memory_size {m : Machine} (h : m.Invariant) : (m.memory.size : Int) = 0x1000 := by
  rw [h.memory]
  rfl

/-- A block is read if it ends no later than memory. -/
theorem Invariant.exists_read {m : Machine} (h : m.Invariant) (length : Nat)
    (fits : m.index + length ≤ 0x1000) :
    ∃ block, m.memory.readBlock m.index length = .ok block := by
  have size := h.memory_size
  exact ⟨_, (m.memory.readBlock_eq_ok_iff m.index length _).mpr ⟨h.index.1, by omega, rfl⟩⟩

/-- A block is written if it ends no later than memory. -/
theorem Invariant.exists_written {m : Machine} (h : m.Invariant) (block : List UInt8)
    (fits : m.index + block.length ≤ 0x1000) :
    ∃ memory, m.memory.writeBlock m.index block = .ok memory := by
  have size := h.memory_size
  exact ⟨_, (m.memory.writeBlock_eq_ok_iff _ m.index block).mpr ⟨h.index.1, by omega, rfl⟩⟩

theorem next?_of_endless {s : Random.Source} (h : s.Endless) :
    ∃ b s', s.next? = some (b, s') ∧ s'.Endless := by
  cases s with
  | sequence values taken =>
    have inside : taken % values.size < values.size := Nat.mod_lt _ h
    exact ⟨values[taken % values.size], .sequence values (taken + 1), by simp [Random.Source.next?,
      inside], h⟩
  | twister generator => exact ⟨_, _, rfl, trivial⟩

/-- The bytes of a list are replayed from the start when they are used up. -/
theorem endless_ofList {values : List Int} (nonempty : values ≠ []) :
    (Random.Source.ofList values).Endless := by
  simpa [Random.Source.ofList, Random.Source.Endless] using List.length_pos_iff.mpr nonempty

theorem mem_slots_of_push? {s t : Stack} {value : Int} (h : s.push? value = some t) :
    ∀ slot ∈ t.slots, slot = value ∨ slot ∈ s.slots := by
  unfold Stack.push? at h
  split at h
  · next free =>
    obtain rfl := Option.some.inj h
    intro slot member
    exact (@Vector.mem_or_eq_of_mem_set Int 16 s.slots s.depth slot value free member).symm
  · cases h

theorem mem_slots_of_pop? {s t : Stack} {value : Int} (h : s.pop? = some (value, t)) :
    value ∈ s.slots ∧ t.slots = s.slots := by
  obtain ⟨slots, depth, bound⟩ := s
  cases depth with
  | zero => simp [Stack.pop?] at h
  | succ depth =>
    simp only [Stack.pop?, Option.some.injEq, Prod.mk.injEq] at h
    obtain ⟨rfl, rfl⟩ := h
    exact ⟨Vector.getElem_mem (Nat.lt_of_succ_le bound), rfl⟩

theorem countDown_bounds {value : Int} (h : 0 ≤ value ∧ value ≤ 0xFF) :
    0 ≤ Timers.countDown value ∧ Timers.countDown value ≤ 0xFF := by
  rw [Timers.countDown_of_nonneg h.1]
  omega

theorem Invariant.setRegister {m : Machine} (h : m.Invariant) (x : Register) (value : UInt8) :
    (m.setRegister x value).Invariant :=
  ⟨h.index, h.pc, h.slots, h.delay, h.sound, h.memory, h.random⟩

theorem Invariant.setWithFlag {m : Machine} (h : m.Invariant) (x : Register) (value : UInt8)
    (flag : Bool) :
    (m.setWithFlag x value flag).Invariant :=
  (h.setRegister x value).setRegister .flag _

/-- The program counter keeps its bound, if it stood at an instruction in memory. -/
theorem Invariant.advance {m : Machine} (h : m.Invariant) (inside : m.pc ≤ 0xFFE)
    (advance : Advance) :
    (m.advance advance).Invariant := by
  have low := h.pc.1
  cases advance with
  | next =>
    exact ⟨h.index, by simp only [Machine.advance]; omega, h.slots, h.delay, h.sound, h.memory,
      h.random⟩
  | skip =>
    exact ⟨h.index, by simp only [Machine.advance]; omega, h.slots, h.delay, h.sound, h.memory,
      h.random⟩
  | jump => exact h
  | again => exact h

/-- A change that leaves the program counter alone goes on to the next instruction within the
    bounds. -/
theorem Invariant.continue {m m' : Machine} (inside : m.pc ≤ 0xFFE) (same : m'.pc = m.pc)
    (h : m'.Invariant) :
    (m'.advance .next).Invariant :=
  h.advance (same ▸ inside) .next

/-! ## Instructions -/

theorem register_bounds (m : Machine) (x : Register) :
    0 ≤ ((m.register x).toNat : Int) ∧ ((m.register x).toNat : Int) ≤ 0xFF := by
  have bound := (m.register x).toNat_lt
  omega

theorem Invariant.performWrite {block : List UInt8} {m m' : Machine} {advance : Advance}
    (h : m.Invariant) (inside : m.pc ≤ 0xFFE)
    (done : Machine.performWrite block m = .ok advance m') : (m'.advance advance).Invariant := by
  obtain ⟨memory, written, rfl, rfl⟩ := performWrite_eq_ok done
  have size : memory.size = Memory.capacity := (Memory.size_of_writeBlock written).trans h.memory
  refine Invariant.continue inside rfl ?_
  exact ⟨h.index, h.pc, h.slots, h.delay, h.sound, size, h.random⟩

/-- An instruction fetched from memory keeps the bounds. -/
theorem Invariant.perform {i : Instruction} {m m' : Machine} {advance : Advance} (h : m.Invariant)
    (inside : m.pc ≤ 0xFFE) (done : Machine.perform i m = .ok advance m') :
    (m'.advance advance).Invariant := by
  cases i with
  | sys _ | skipEqual _ _ | skipUnequal _ _ | skipSame _ _ | skipDifferent _ _ | skipPressed _
  | skipReleased _ =>
    cases done
    exact h.advance inside _
  | load x _ | add x _ | copy x _ | or x _ | and x _ | xor x _ | readDelay x =>
    cases done
    exact (h.setRegister x _).advance inside .next
  | addRegister x _ | sub x _ | shiftRight x _ | subFrom x _ | shiftLeft x _ =>
    cases done
    exact (h.setWithFlag x _ _).advance inside .next
  | clear =>
    cases done
    refine Invariant.continue inside rfl ?_
    exact ⟨h.index, h.pc, h.slots, h.delay, h.sound, h.memory, h.random⟩
  | ret =>
    obtain ⟨pc, stack, popped, rfl, rfl⟩ := performReturn_eq_ok done
    obtain ⟨live, same⟩ := mem_slots_of_pop? popped
    -- The slot was filled by a call, and a call stands at least two bytes before the end of memory.
    have bound := h.slots pc live
    have slots : ∀ slot ∈ stack.slots, 0 ≤ slot ∧ slot ≤ 0xFFE := by
      rw [same]
      exact h.slots
    exact ⟨h.index, by simp only [Machine.advance]; omega, slots, h.delay, h.sound, h.memory,
      h.random⟩
  | jump target =>
    cases done
    have bound := target.isLt
    exact ⟨h.index, by simp only [Machine.advance]; omega, h.slots, h.delay, h.sound, h.memory,
      h.random⟩
  | call target =>
    obtain ⟨stack, pushed, rfl, rfl⟩ := performCall_eq_ok done
    have bound := target.isLt
    have slots : ∀ slot ∈ stack.slots, 0 ≤ slot ∧ slot ≤ 0xFFE := by
      intro slot member
      rcases mem_slots_of_push? pushed slot member with rfl | older
      · exact ⟨h.pc.1, inside⟩
      · exact h.slots slot older
    exact ⟨h.index, by simp only [Machine.advance]; omega, slots, h.delay, h.sound, h.memory,
      h.random⟩
  | loadIndex target =>
    cases done
    have bound := target.isLt
    refine Invariant.continue inside rfl ?_
    exact ⟨by dsimp only; omega, h.pc, h.slots, h.delay, h.sound, h.memory, h.random⟩
  | jumpOffset target =>
    cases done
    have bound := target.isLt
    have offset := m.register_bounds 0
    exact ⟨h.index, by simp only [Machine.advance]; omega, h.slots, h.delay, h.sound, h.memory,
      h.random⟩
  | random x mask =>
    obtain ⟨b, source, taken, endless⟩ := next?_of_endless h.random
    rw [Machine.perform, performRandom_apply, taken] at done
    cases done
    refine Invariant.continue inside rfl ?_
    exact ⟨h.index, h.pc, h.slots, h.delay, h.sound, h.memory, endless⟩
  | draw x y rows =>
    obtain ⟨sprite, -, rfl, rfl⟩ := performDraw_eq_ok done
    refine Invariant.continue inside rfl ?_
    exact ⟨h.index, h.pc, h.slots, h.delay, h.sound, h.memory, h.random⟩
  | waitKey x =>
    obtain ⟨-, rfl, rfl⟩ | ⟨key, -, rfl, rfl⟩ := performWaitKey_eq_ok done
    · -- No key is pressed: the instruction comes again, and nothing has changed.
      exact h
    · exact (h.setRegister x _).advance inside .next
  | setDelay x =>
    cases done
    refine Invariant.continue inside rfl ?_
    exact ⟨h.index, h.pc, h.slots, m.register_bounds x, h.sound, h.memory, h.random⟩
  | setSound x =>
    cases done
    refine Invariant.continue inside rfl ?_
    exact ⟨h.index, h.pc, h.slots, h.delay, m.register_bounds x, h.memory, h.random⟩
  | addIndex x =>
    cases done
    refine Invariant.continue inside rfl ?_
    exact ⟨by dsimp only; omega, h.pc, h.slots, h.delay, h.sound, h.memory, h.random⟩
  | loadGlyph x =>
    cases done
    have bound := m.register_bounds x
    refine Invariant.continue inside rfl ?_
    exact ⟨by dsimp only [Font.glyphSize]; omega, h.pc, h.slots, h.delay, h.sound, h.memory,
      h.random⟩
  | storeDecimal x => exact h.performWrite inside done
  | storeRegisters x => exact h.performWrite inside done
  | loadRegisters x =>
    obtain ⟨block, -, rfl, rfl⟩ := performRead_eq_ok done
    refine Invariant.continue inside rfl ?_
    exact ⟨h.index, h.pc, h.slots, h.delay, h.sound, h.memory, h.random⟩

theorem ofStep_of_memory {fault : Fault} (h : ∃ outside, fault = .memory outside) :
    fault.OfStep := by
  obtain ⟨outside, rfl⟩ := h
  trivial

theorem ofStep_of_performWrite {block : List UInt8} {m m' : Machine} {fault : Fault}
    (failed : Machine.performWrite block m = .error fault m') : fault.OfStep := by
  rw [performWrite_apply] at failed
  split at failed
  · next written =>
    cases failed
    exact ofStep_of_memory (Memory.writeBlock_eq_error written)
  · cases failed

/-- An instruction faults for the stack or for an access to memory only. -/
theorem Invariant.perform_ofStep {i : Instruction} {m m' : Machine} {fault : Fault}
    (h : m.Invariant) (failed : Machine.perform i m = .error fault m') : fault.OfStep := by
  cases i with
  | ret =>
    rw [Machine.perform, performReturn_apply] at failed
    split at failed <;> cases failed
    trivial
  | call target =>
    rw [Machine.perform, performCall_apply] at failed
    split at failed <;> cases failed
    trivial
  | random x mask =>
    obtain ⟨b, source, taken, -⟩ := next?_of_endless h.random
    rw [Machine.perform, performRandom_apply, taken] at failed
    cases failed
  | draw x y rows =>
    rw [Machine.perform, performDraw_apply] at failed
    split at failed
    · next read =>
      cases failed
      exact ofStep_of_memory (Memory.readBlock_eq_error read)
    · cases failed
  | waitKey x =>
    rw [Machine.perform, performWaitKey_apply] at failed
    split at failed <;> cases failed
  | storeDecimal x => exact ofStep_of_performWrite failed
  | storeRegisters x => exact ofStep_of_performWrite failed
  | loadRegisters x =>
    rw [Machine.perform, performRead_apply] at failed
    split at failed
    · next read =>
      cases failed
      rw [Memory.readVector_eq_error_iff] at read
      exact ofStep_of_memory (Memory.readBlock_eq_error read)
    · cases failed
  | _ => cases failed

theorem ofStep_of_current {m : Machine} {fault : Fault} (h : m.current = .error fault) :
    fault.OfStep := by
  cases read : m.memory.readWord m.pc with
  | error refused =>
    rw [current_of_fault read] at h
    obtain rfl := Except.error.inj h
    exact ofStep_of_memory (Memory.readWord_eq_error read)
  | ok word =>
    rw [current_of_read read, decoded] at h
    split at h
    · obtain rfl := Except.error.inj h
      trivial
    · cases h

/-! ## Steps and calls -/

theorem Invariant.step_ofStep {m m' : Machine} {fault : Fault} (h : m.Invariant)
    (failed : Machine.step m = .error fault m') : fault.OfStep := by
  obtain ⟨-, missing | ⟨i, -, refused⟩⟩ := step_eq_error failed
  · exact ofStep_of_current missing
  · exact h.perform_ofStep refused

/-- A step keeps the bounds, whether or not it faults. -/
theorem Invariant.step {m : Machine} (h : m.Invariant) : (left (Machine.step m)).Invariant := by
  cases stepped : Machine.step m with
  | error fault m' =>
    obtain ⟨rfl, -⟩ := step_eq_error stepped
    exact h
  | ok advance m' =>
    obtain ⟨i, m₁, found, done, rfl⟩ := step_eq_ok stepped
    -- Both bytes of the instruction lay in memory, so two more keep the counter inside the bound.
    have fetched := (pc_of_current found).2
    rw [h.memory] at fetched
    have inside : m.pc ≤ 0xFFE := by
      simp only [Memory.capacity] at fetched
      omega
    exact h.perform inside done

/-- A call keeps the bounds, whether or not it faults. -/
theorem Invariant.after {m : Machine} (h : m.Invariant) (c : Call) : (m.after c).Invariant := by
  cases c with
  | step =>
    rw [after_step]
    exact h.step
  | load rom =>
    rw [Machine.after, exec_load]
    cases loaded : m.memory.load rom with
    | error fault => exact h
    | ok memory =>
      have size : memory.size = Memory.capacity := (Memory.size_of_load loaded).trans h.memory
      exact ⟨h.index, h.pc, h.slots, h.delay, h.sound, size, h.random⟩
  | tick =>
    exact ⟨h.index, h.pc, h.slots, countDown_bounds h.delay, countDown_bounds h.sound, h.memory,
      h.random⟩
  | press key => exact ⟨h.index, h.pc, h.slots, h.delay, h.sound, h.memory, h.random⟩
  | release key => exact ⟨h.index, h.pc, h.slots, h.delay, h.sound, h.memory, h.random⟩

theorem invariant_new {source : Random.Source} (endless : source.Endless) :
    Invariant { random := source } where
  index := by simp
  pc := by simp [Memory.romBase]
  slots := by
    intro slot member
    obtain rfl : slot = 0 := by simpa using member
    decide
  delay := by simp
  sound := by simp
  memory := Memory.size_ofSize Memory.capacity
  random := endless

theorem Invariant.afterAll {m : Machine} (h : m.Invariant) (calls : List Call) :
    (m.afterAll calls).Invariant := by
  induction calls generalizing m with
  | nil => exact h
  | cons c calls ih => exact ih (h.after c)

/-! ## All bounds -/

/-- All bounds of a machine, those that its type has spelled out. -/
structure Bounds (m : Machine) : Prop extends Invariant m where
  registers : m.registers.toList.length = 16 ∧ ∀ b ∈ m.registers, b.toNat ≤ 0xFF
  depth : m.stack.depth ≤ 16
  slotCount : m.stack.slots.toList.length = 16
  bytes : m.memory.bytes.toList.length = 0x1000
  keys : m.keypad.keys.toList.length = 16
  pixels : m.display.pixels.toList.length = 2048

theorem Invariant.bounds {m : Machine} (h : m.Invariant) : m.Bounds where
  toInvariant := h
  registers := ⟨Vector.length_toList, fun b _ => Nat.le_of_lt_succ b.toNat_lt⟩
  depth := m.stack.depth_le
  slotCount := Vector.length_toList
  bytes := h.memory
  keys := Vector.length_toList
  pixels := Vector.length_toList

/-- Whatever a driver asks of a new machine, in whatever order and whether or not the machine
    faults, it keeps all its bounds, and a step of it succeeds or fails in one of the four ways of a
    step. -/
theorem bounds_after_calls (source : Random.Source)
    (supply : (∃ values, values ≠ [] ∧ source = .ofList values) ∨
      ∃ generator, source = .twister generator)
    (calls : List Call) :
    (afterAll { random := source } calls).Bounds ∧
      ∀ fault m', step (afterAll { random := source } calls) = .error fault m' → fault.OfStep := by
  have endless : source.Endless := by
    rcases supply with ⟨values, nonempty, rfl⟩ | ⟨generator, rfl⟩
    · exact endless_ofList nonempty
    · trivial
  have kept := (invariant_new endless).afterAll calls
  exact ⟨kept.bounds, fun fault m' failed => kept.step_ofStep failed⟩

/-- A program that calls itself until the stack is full, with a tick and a key in between. -/
theorem bounds_after_recursion :
    (∃ values : List Int, values ≠ [] ∧ Random.Source.ofList [300] = .ofList values) ∧
      (afterAll { random := .ofList [300] }
        ([.load [0x22, 0x00], .tick, .press 5] ++ List.replicate 20 .step)).Bounds := by
  have supply : ∃ values : List Int, values ≠ [] ∧ Random.Source.ofList [300] = .ofList values :=
    ⟨[300], by decide, rfl⟩
  exact ⟨supply, (bounds_after_calls _ (.inl supply) _).1⟩

end Machine

end ChipEight
