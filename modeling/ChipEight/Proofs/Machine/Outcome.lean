import ChipEight.Machine.Run
import ChipEight.Proofs.Computation
import ChipEight.Proofs.Memory
import ChipEight.Proofs.Opcode

/-!
# Outcomes of steps

A step is a computation that can fault. Here it is taken apart: `Machine.current` is the instruction
that a machine is about to perform or the fault of finding none, and `step_eq` says that a step is
that instruction performed. What each kind of instruction comes to is a lemma `perform…_apply`, so
that nobody has to open the computation again.
-/

namespace ChipEight.Machine

/-! ## The kinds of instructions -/

/-- Looks at the state and goes on from it. -/
theorem get_bind_apply {α : Type} (next : Machine → Exec α) (m : Machine) :
    (get >>= next : Exec α) m = next m m := rfl

/-- Goes on with the result of a checked access from the state in which it was made. -/
theorem ofExcept_bind_apply {α β : Type} (result : Except Fault α) (next : α → Exec β)
    (m : Machine) :
    (ofExcept result >>= next) m =
      match result with
      | .error fault => .error fault m
      | .ok a => next a m := by
  cases result <;> rfl

@[simp] theorem skipWhen_apply (condition : Machine → Bool) (m : Machine) :
    skipWhen condition m = .ok (if condition m then .skip else .next) m := rfl

@[simp] theorem continueWith_apply (change : Machine → Machine) (m : Machine) :
    continueWith change m = .ok .next (change m) := rfl

@[simp] theorem jumpWith_apply (change : Machine → Machine) (m : Machine) :
    jumpWith change m = .ok .jump (change m) := rfl

theorem performReturn_apply (m : Machine) :
    performReturn m =
      match m.stack.pop? with
      | none => .error (.stackUnderflow m.pc) m
      | some (pc, stack) => .ok .jump { m with pc, stack } := by
  rw [performReturn, get_bind_apply]
  cases m.stack.pop? <;> rfl

theorem performCall_apply (target : Address) (m : Machine) :
    performCall target m =
      match m.stack.push? m.pc with
      | none => .error (.stackOverflow m.pc) m
      | some stack => .ok .jump { m with pc := target, stack } := by
  rw [performCall, get_bind_apply]
  cases m.stack.push? m.pc <;> rfl

theorem performRandom_apply (x : Register) (mask : UInt8) (m : Machine) :
    performRandom x mask m =
      match m.random.next? with
      | none => .error .noRandomByte m
      | some (b, random) => .ok .next { m.setRegister x (b &&& mask) with random } := by
  rw [performRandom, get_bind_apply]
  cases m.random.next? <;> rfl

theorem performWaitKey_apply (x : Register) (m : Machine) :
    performWaitKey x m =
      match m.keypad.firstPressed? with
      | none => .ok .again m
      | some key => .ok .next (m.setRegister x (UInt8.ofNat key)) := by
  rw [performWaitKey, get_bind_apply]
  cases m.keypad.firstPressed? <;> rfl

theorem performDraw_apply (x y : Register) (rows : Nibble) (m : Machine) :
    performDraw x y rows m =
      match m.memory.readBlock m.index rows.val with
      | .error fault => .error fault m
      | .ok sprite =>
        let drawn := m.display.draw (m.register x).toNat (m.register y).toNat sprite
        .ok .next { m.setRegister .flag (if drawn.1 then 1 else 0) with display := drawn.2 } := by
  rw [performDraw, get_bind_apply, ofExcept_bind_apply]
  cases m.memory.readBlock m.index rows.val <;> rfl

theorem performWrite_apply (block : List UInt8) (m : Machine) :
    performWrite block m =
      match m.memory.writeBlock m.index block with
      | .error fault => .error fault m
      | .ok memory => .ok .next { m with memory } := by
  rw [performWrite, get_bind_apply, ofExcept_bind_apply]
  cases m.memory.writeBlock m.index block <;> rfl

theorem performRead_apply (x : Register) (m : Machine) :
    performRead x m =
      match m.memory.readVector m.index (x.val + 1) with
      | .error fault => .error fault m
      | .ok block => .ok .next (m.setRegisters x block) := by
  rw [performRead, get_bind_apply, ofExcept_bind_apply]
  cases m.memory.readVector m.index (x.val + 1) <;> rfl

theorem perform_storeDecimal (x : Register) (m : Machine) :
    perform (.storeDecimal x) m =
      performWrite [m.register x / 100, m.register x / 10 % 10, m.register x % 10] m := rfl

theorem perform_storeRegisters (x : Register) (m : Machine) :
    perform (.storeRegisters x) m = performWrite (m.registers.toList.take (x.val + 1)) m := rfl

/-! ## Success

What is known when an instruction that can fault has succeeded. -/

section Success

variable {m m' : Machine} {advance : Advance}

theorem performReturn_eq_ok (h : performReturn m = .ok advance m') :
    ∃ pc stack, m.stack.pop? = some (pc, stack) ∧ advance = .jump ∧ m' = { m with pc, stack } := by
  rw [performReturn_apply] at h
  split at h
  · cases h
  · next popped =>
    cases h
    exact ⟨_, _, popped, rfl, rfl⟩

theorem performCall_eq_ok {target : Address} (h : performCall target m = .ok advance m') :
    ∃ stack, m.stack.push? m.pc = some stack ∧ advance = .jump ∧
      m' = { m with pc := target, stack } := by
  rw [performCall_apply] at h
  split at h
  · cases h
  · next pushed =>
    cases h
    exact ⟨_, pushed, rfl, rfl⟩

theorem performRandom_eq_ok {x : Register} {mask : UInt8}
    (h : performRandom x mask m = .ok advance m') :
    ∃ b random, m.random.next? = some (b, random) ∧ advance = .next ∧
      m' = { m.setRegister x (b &&& mask) with random } := by
  rw [performRandom_apply] at h
  split at h
  · cases h
  · next taken =>
    cases h
    exact ⟨_, _, taken, rfl, rfl⟩

theorem performWaitKey_eq_ok {x : Register} (h : performWaitKey x m = .ok advance m') :
    m.keypad.firstPressed? = none ∧ advance = .again ∧ m' = m ∨
      ∃ key, m.keypad.firstPressed? = some key ∧ advance = .next ∧
        m' = m.setRegister x (UInt8.ofNat key) := by
  rw [performWaitKey_apply] at h
  split at h
  · next nothing =>
    cases h
    exact .inl ⟨nothing, rfl, rfl⟩
  · next pressed =>
    cases h
    exact .inr ⟨_, pressed, rfl, rfl⟩

theorem performDraw_eq_ok {x y : Register} {rows : Nibble}
    (h : performDraw x y rows m = .ok advance m') :
    ∃ sprite, m.memory.readBlock m.index rows.val = .ok sprite ∧ advance = .next ∧
      let drawn := m.display.draw (m.register x).toNat (m.register y).toNat sprite
      m' = { m.setRegister .flag (if drawn.1 then 1 else 0) with display := drawn.2 } := by
  rw [performDraw_apply] at h
  split at h
  · cases h
  · next read =>
    cases h
    exact ⟨_, read, rfl, rfl⟩

theorem performWrite_eq_ok {block : List UInt8} (h : performWrite block m = .ok advance m') :
    ∃ memory, m.memory.writeBlock m.index block = .ok memory ∧ advance = .next ∧
      m' = { m with memory } := by
  rw [performWrite_apply] at h
  split at h
  · cases h
  · next written =>
    cases h
    exact ⟨_, written, rfl, rfl⟩

theorem performRead_eq_ok {x : Register} (h : performRead x m = .ok advance m') :
    ∃ block, m.memory.readVector m.index (x.val + 1) = .ok block ∧ advance = .next ∧
      m' = m.setRegisters x block := by
  rw [performRead_apply] at h
  split at h
  · cases h
  · next read =>
    cases h
    exact ⟨_, read, rfl, rfl⟩

end Success

/-- An instruction that faults leaves the machine as it was. -/
theorem perform_error {i : Instruction} {m m' : Machine} {fault : Fault}
    (h : perform i m = .error fault m') :
    m' = m := by
  cases i with
  | ret =>
    rw [perform, performReturn_apply] at h
    split at h <;> simp_all
  | call target =>
    rw [perform, performCall_apply] at h
    split at h <;> simp_all
  | random x mask =>
    rw [perform, performRandom_apply] at h
    split at h <;> simp_all
  | draw x y rows =>
    rw [perform, performDraw_apply] at h
    split at h <;> simp_all
  | waitKey x =>
    rw [perform, performWaitKey_apply] at h
    split at h <;> simp_all
  | storeDecimal x =>
    rw [perform_storeDecimal, performWrite_apply] at h
    split at h <;> simp_all
  | storeRegisters x =>
    rw [perform_storeRegisters, performWrite_apply] at h
    split at h <;> simp_all
  | loadRegisters x =>
    rw [perform, performRead_apply] at h
    split at h <;> simp_all
  | sys target => cases h
  | _ => simp [perform] at h

/-! ## Steps -/

/-- The instruction of an opcode fetched from `pc`, or the fault of its being none. -/
def decoded (pc opcode : Int) : Except Fault Instruction :=
  match Opcode.decode? opcode with
  | none => .error (.unknownOpcode opcode pc)
  | some i => .ok i

/-- The instruction that the machine is about to perform, or the fault of finding none. -/
def current (m : Machine) : Except Fault Instruction :=
  m.memory.readWord m.pc >>= fun word => decoded m.pc word

theorem current_of_read {m : Machine} {word : Nat} (read : m.memory.readWord m.pc = .ok word) :
    m.current = decoded m.pc word := by
  rw [current, read, ok_bind]

theorem current_of_fault {m : Machine} {fault : Fault}
    (read : m.memory.readWord m.pc = .error fault) :
    m.current = .error fault := by
  rw [current, read, error_bind]

/-- A number of sixteen bits is never too wide for an opcode. -/
theorem template?_isSome {word : Nat} (bound : word < 0x10000) :
    ∃ template, Opcode.template? word = some template := by
  unfold Opcode.template?
  split
  · exact ⟨_, rfl⟩
  · rw [if_pos (by omega)]
    exact ⟨_, rfl⟩

/-- Performs an instruction and moves the program counter as it asked for. -/
def performAndAdvance (i : Instruction) : Exec Advance := do
  let advance ← perform i
  modify (·.advance advance)
  return advance

theorem performAndAdvance_apply (i : Instruction) (m : Machine) :
    performAndAdvance i m =
      match perform i m with
      | .error fault m' => .error fault m'
      | .ok advance m' => .ok advance (m'.advance advance) := by
  rw [performAndAdvance, bind_apply]
  cases perform i m <;> rfl

theorem execute_apply {opcode : Int} {template : Nat}
    (found : Opcode.template? opcode = some template) (m : Machine) :
    execute opcode m =
      match decoded m.pc opcode with
      | .error fault => .error fault m
      | .ok i => performAndAdvance i m := by
  simp only [execute, decoded, Opcode.decode?, found, Option.bind_some]
  cases selected : Opcode.instruction? template opcode <;> rfl

/-- What is too wide for an opcode is not executed. -/
theorem execute_too_wide {opcode : Int} (wide : Opcode.template? opcode = none) (m : Machine) :
    execute opcode m = .error (.opcodeTooWide opcode) m := by
  rw [execute, wide]
  rfl

/-- No number above sixteen bits has a template. -/
theorem lt_of_template? {opcode template : Nat} (found : Opcode.template? opcode = some template) :
    opcode < 0x10000 := by
  unfold Opcode.template? at found
  split at found
  · omega
  · split at found
    · omega
    · cases found

/-- An opcode that is executed without a fault is the word of an instruction. -/
theorem execute_eq_ok {opcode : Nat} {m m' : Machine} {advance : Advance}
    (h : execute opcode m = .ok advance m') :
    ∃ i m₁, i.word = opcode ∧ Opcode.decode? opcode = some i ∧ perform i m = .ok advance m₁ ∧
      m' = m₁.advance advance := by
  cases found : Opcode.template? opcode with
  | none =>
    rw [execute_too_wide found] at h
    cases h
  | some template =>
    rw [execute_apply found, decoded] at h
    cases isWord : Opcode.decode? opcode with
    | none => simp [isWord] at h
    | some i =>
      simp only [isWord, performAndAdvance_apply] at h
      cases performed : perform i m with
      | error fault m₁ => simp [performed] at h
      | ok a m₁ =>
        simp only [performed, EStateM.Result.ok.injEq] at h
        obtain ⟨rfl, rfl⟩ := h
        exact ⟨i, m₁, Opcode.word_of_decode? (lt_of_template? found) isWord, rfl, performed, rfl⟩

/-- A word is executed as the instruction that it is the word of. -/
theorem execute_word (i : Instruction) (notCollides : ¬ Opcode.Collides i) (m : Machine) :
    execute i.word m = performAndAdvance i m := by
  obtain ⟨template, found⟩ := template?_isSome i.word_lt
  rw [execute_apply found, decoded, Opcode.decode?_word i notCollides]

theorem fetch_apply (m : Machine) :
    fetch m =
      match m.memory.readWord m.pc with
      | .error fault => .error fault m
      | .ok word => .ok (word : Int) m := by
  rw [fetch, get_bind_apply, ofExcept_bind_apply]
  cases m.memory.readWord m.pc <;> rfl

/-- What is fetched is the word at the program counter. -/
theorem fetch_eq_ok_iff {m : Machine} {opcode : Nat} :
    fetch m = .ok opcode m ↔ m.memory.readWord m.pc = .ok opcode := by
  rw [fetch_apply]
  cases m.memory.readWord m.pc <;> simp

theorem eq_of_fetch {m : Machine} {opcode word : Nat} (fetched : fetch m = .ok (opcode : Int) m)
    (read : m.memory.readWord m.pc = .ok word) : opcode = word :=
  Except.ok.inj ((fetch_eq_ok_iff.mp fetched).symm.trans read)

/-- The instruction that a machine is about to perform was decoded from the word at the program
    counter. -/
theorem readWord_of_current {m : Machine} {i : Instruction} (h : m.current = .ok i) :
    m.memory.readWord m.pc = .ok i.word ∧ Opcode.decode? i.word = some i := by
  cases read : m.memory.readWord m.pc with
  | error fault => simp [current_of_fault read] at h
  | ok word =>
    rw [current_of_read read, decoded] at h
    split at h
    · cases h
    · next found =>
      obtain rfl := Except.ok.inj h
      rw [Opcode.word_of_decode? (Memory.readWord_eq_ok read).2.2 found]
      exact ⟨rfl, found⟩

/-- A word that has been fetched is the word of the instruction that the machine is about to
    perform, if there is one. -/
theorem fetch_of_current {m : Machine} {i : Instruction} (h : m.current = .ok i) :
    fetch m = .ok i.word m :=
  fetch_eq_ok_iff.mpr (readWord_of_current h).1

/-- A step performs the instruction that is about to be performed, and then moves the program
    counter. -/
theorem step_eq (m : Machine) :
    step m =
      match m.current with
      | .error fault => .error fault m
      | .ok i => performAndAdvance i m := by
  rw [step, bind_apply, fetch_apply]
  cases read : m.memory.readWord m.pc with
  | error fault => rw [current_of_fault read]
  | ok word =>
    -- Two bytes make a word, and no word is too wide for an opcode.
    obtain ⟨template, found⟩ := template?_isSome (Memory.readWord_eq_ok read).2.2
    rw [current_of_read read]
    dsimp only
    rw [execute_apply found]

/-- The word in front of which a machine stands is what a step performs. -/
theorem step_word {m : Machine} {i : Instruction} (notCollides : ¬ Opcode.Collides i)
    (read : m.memory.readWord m.pc = .ok i.word) : step m = performAndAdvance i m := by
  rw [step_eq, current_of_read read, decoded, Opcode.decode?_word i notCollides]

/-- A step that succeeds performed an instruction. -/
theorem step_eq_ok {m m' : Machine} {advance : Advance} (h : step m = .ok advance m') :
    ∃ i m₁, m.current = .ok i ∧ perform i m = .ok advance m₁ ∧ m' = m₁.advance advance := by
  rw [step_eq] at h
  cases found : m.current with
  | error fault => simp [found] at h
  | ok i =>
    simp only [found, performAndAdvance_apply] at h
    cases performed : perform i m with
    | error fault m₁ => simp [performed] at h
    | ok a m₁ =>
      simp only [performed, EStateM.Result.ok.injEq] at h
      obtain ⟨rfl, rfl⟩ := h
      exact ⟨i, m₁, rfl, performed, rfl⟩

/-- A step that faults found no instruction, or one that faulted. -/
theorem step_eq_error {m m' : Machine} {fault : Fault} (h : step m = .error fault m') :
    m' = m ∧ (m.current = .error fault ∨ ∃ i, m.current = .ok i ∧
    perform i m = .error fault m) := by
  rw [step_eq] at h
  cases found : m.current with
  | error refused =>
    simp only [found, EStateM.Result.error.injEq] at h
    obtain ⟨rfl, rfl⟩ := h
    exact ⟨rfl, .inl rfl⟩
  | ok i =>
    simp only [found, performAndAdvance_apply] at h
    cases performed : perform i m with
    | error refused m₁ =>
      obtain rfl := perform_error performed
      simp only [performed, EStateM.Result.error.injEq] at h
      obtain ⟨rfl, rfl⟩ := h
      exact ⟨rfl, .inr ⟨i, rfl, performed⟩⟩
    | ok a m₁ => simp [performed] at h

/-- An instruction that is about to be performed was fetched from two bytes of memory. -/
theorem pc_of_current {m : Machine} {i : Instruction} (h : m.current = .ok i) :
    0 ≤ m.pc ∧ m.pc + 2 ≤ m.memory.size := by
  obtain ⟨low, inside, -⟩ := Memory.readWord_eq_ok (readWord_of_current h).1
  exact ⟨low, inside⟩

end ChipEight.Machine
