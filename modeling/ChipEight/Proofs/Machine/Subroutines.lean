import ChipEight.Proofs.Machine.Calls
import ChipEight.Proofs.Opcode

/-!
# Subroutines

A machine that calls a subroutine comes back from it. Only two instructions touch the stack, and
each moves its depth by one, so as long as the stack stays deeper than it was at a call, the slots
in use then and the address of the call stay in it. The step with which it gets as deep as it was
is therefore the return to that call (`returns_to_call`).
-/

namespace ChipEight.Machine

/-! ## The stack in a step -/

/-- What an instruction that succeeds does to the stack. -/
theorem stack_of_perform {i : Instruction} {m m' : Machine} {advance : Advance}
    (h : perform i m = .ok advance m') :
    match i with
    | .ret => advance = .jump ∧ m.stack.pop? = some (m'.pc, m'.stack)
    | .call target => advance = .jump ∧ m'.pc = target ∧ m.stack.push? m.pc = some m'.stack
    | _ => m'.stack = m.stack := by
  cases i with
  | ret =>
    obtain ⟨pc, stack, popped, rfl, rfl⟩ := performReturn_eq_ok h
    exact ⟨rfl, popped⟩
  | call target =>
    obtain ⟨stack, pushed, rfl, rfl⟩ := performCall_eq_ok h
    exact ⟨rfl, rfl, pushed⟩
  | random x mask =>
    obtain ⟨b, random, -, rfl, rfl⟩ := performRandom_eq_ok h
    rfl
  | draw x y rows =>
    obtain ⟨sprite, -, rfl, rfl⟩ := performDraw_eq_ok h
    rfl
  | waitKey x =>
    obtain ⟨-, rfl, rfl⟩ | ⟨key, -, rfl, rfl⟩ := performWaitKey_eq_ok h
    · rfl
    · rfl
  | storeDecimal x | storeRegisters x =>
    obtain ⟨memory, -, rfl, rfl⟩ := performWrite_eq_ok h
    rfl
  | loadRegisters x =>
    obtain ⟨block, -, rfl, rfl⟩ := performRead_eq_ok h
    rfl
  | _ =>
    cases h
    rfl

@[simp] theorem stack_advance (m : Machine) (advance : Advance) :
    (m.advance advance).stack = m.stack := by
  cases advance <;> rfl

/-- All that a call from outside can do to the stack, if it does not fault. -/
theorem stack_of_exec {c : Call} {m m' : Machine} {answer : Option Advance}
    (h : c.exec m = .ok answer m') :
    (c = .step ∧ m.current = .ok .ret ∧ m.stack.pop? = some (m'.pc, m'.stack)) ∨
      (c = .step ∧ (∃ target, m.current = .ok (.call target)) ∧
        m.stack.push? m.pc = some m'.stack) ∨
      m'.stack = m.stack := by
  cases c with
  | load rom =>
    rw [exec_load] at h
    split at h
    · cases h
    · obtain ⟨rfl, rfl⟩ := EStateM.Result.ok.inj h
      exact .inr (.inr rfl)
  | step =>
    rw [exec_step] at h
    cases stepped : step m with
    | error fault m₁ => simp [stepped] at h
    | ok advance m₁ =>
      simp only [stepped, EStateM.Result.ok.injEq] at h
      obtain ⟨rfl, rfl⟩ := h
      obtain ⟨i, m₂, current, performed, rfl⟩ := step_eq_ok stepped
      have moved := stack_of_perform performed
      split at moved
      · obtain ⟨rfl, popped⟩ := moved
        exact .inl ⟨rfl, current, popped⟩
      · obtain ⟨rfl, _, pushed⟩ := moved
        exact .inr (.inl ⟨rfl, ⟨_, current⟩, pushed⟩)
      · exact .inr (.inr ((stack_advance m₂ advance).trans moved))
  | tick | press key | release key =>
    obtain ⟨rfl, rfl⟩ := EStateM.Result.ok.inj h
    exact .inr (.inr rfl)

/-! ## The stack in a run -/

/-- What lies at the bottom of the stack stays there while the stack is at least that deep. -/
theorem prefix_of_exec {c : Call} {m m' : Machine} {answer : Option Advance} {kept : List Int}
    (h : c.exec m = .ok answer m') (lies : kept <+: m.stack.toList)
    (deep : kept.length ≤ m'.stack.depth) :
    kept <+: m'.stack.toList := by
  obtain ⟨-, -, popped⟩ | ⟨-, -, pushed⟩ | same := stack_of_exec h
  · rw [Stack.toList_of_pop? popped] at lies
    have below : m'.stack.toList <+: m'.stack.toList ++ [m'.pc] := List.prefix_append _ _
    exact List.prefix_of_prefix_length_le lies below (by rwa [Stack.length_toList])
  · rw [Stack.toList_of_push? pushed]
    exact lies.trans (List.prefix_append _ _)
  · rwa [same]

/-- The calls lead from `m` to `m'` without a fault, and all the way, at both ends too, the stack is
    deeper than `floor`. -/
def CompletesAbove (floor : Nat) (m : Machine) : List Call → Machine → Prop
  | [], m' => floor < m.stack.depth ∧ m' = m
  | c :: calls, m' =>
    floor < m.stack.depth ∧ ∃ answer m₁, c.exec m = .ok answer m₁ ∧
      CompletesAbove floor m₁ calls m'

theorem CompletesAbove.lt_depth {floor : Nat} {m m' : Machine} {calls : List Call}
    (h : m.CompletesAbove floor calls m') :
    floor < m.stack.depth := by
  cases calls with
  | nil => exact h.1
  | cons c calls => exact h.1

theorem CompletesAbove.prefix {floor : Nat} {m m' : Machine} {calls : List Call}
    {kept : List Int} (h : m.CompletesAbove floor calls m') (lies : kept <+: m.stack.toList)
    (low : kept.length ≤ floor + 1) :
    kept <+: m'.stack.toList := by
  induction calls generalizing m with
  | nil =>
    obtain ⟨-, rfl⟩ := h
    exact lies
  | cons c calls ih =>
    obtain ⟨-, answer, m₁, done, rest⟩ := h
    exact ih rest (prefix_of_exec done lies (Nat.le_trans low rest.lt_depth))

/-- A call from outside after which the stack is no deeper than what lay below its topmost slot is a
    step that returns to the address in that slot. -/
theorem ret_of_exec {c : Call} {m m' : Machine} {answer : Option Advance} {below : List Int}
    {address : Int} (h : c.exec m = .ok answer m') (lies : below ++ [address] <+: m.stack.toList)
    (shallow : m'.stack.depth ≤ below.length) :
    c = .step ∧ m.current = .ok .ret ∧ m'.pc = address ∧ m'.stack.toList = below := by
  have deep : below.length + 1 ≤ m.stack.depth := by
    simpa only [List.length_append, List.length_singleton, Stack.length_toList] using
      lies.length_le
  obtain ⟨isStep, current, popped⟩ | ⟨-, -, pushed⟩ | same := stack_of_exec h
  · have whole := Stack.toList_of_pop? popped
    have lengths := congrArg List.length whole
    simp only [List.length_append, List.length_singleton, Stack.length_toList] at lengths
    have equal : below ++ [address] = m'.stack.toList ++ [m'.pc] := by
      rw [← whole]
      refine lies.eq_of_length ?_
      rw [List.length_append, List.length_singleton, Stack.length_toList]
      omega
    obtain ⟨sameBelow, sameTop⟩ := List.append_inj' equal rfl
    exact ⟨isStep, current, (List.singleton_inj.mp sameTop).symm, sameBelow.symm⟩
  -- Neither a call nor anything else makes the stack less deep.
  · have lengths := congrArg List.length (Stack.toList_of_push? pushed)
    simp only [List.length_append, List.length_singleton, Stack.length_toList] at lengths
    omega
  · rw [same] at shallow
    omega

/-! ## Fetched words -/

theorem current_of_fetch_call {m : Machine} {word : Int} (fetched : fetch m = .ok word m)
    (isCall : word / 0x1000 = 2) :
    ∃ target : Address, (target.val : Int) = word % 0x1000 ∧ m.current = .ok (.call target) := by
  rw [fetch_apply] at fetched
  cases read : m.memory.readWord m.pc with
  | error fault => simp [read] at fetched
  | ok number =>
    simp only [read, EStateM.Result.ok.injEq, and_true] at fetched
    subst fetched
    obtain ⟨target, rfl⟩ : ∃ target : Address, number = Instruction.word (.call target) := by
      refine ⟨⟨number - 0x2000, by omega⟩, ?_⟩
      simp only [Instruction.word]
      omega
    refine ⟨target, ?_, ?_⟩
    · simp only [Instruction.word]
      omega
    · rw [current_of_read read, decoded, Opcode.decode?_word (.call target) id]

/-! ## Calls and returns -/

theorem exec_of_step {m m' : Machine} {advance : Advance} (h : step m = .ok advance m') :
    Call.exec .step m = .ok (some advance) m' := by
  rw [exec_step, h]

/-- A call puts its own address onto the stack and goes to its target. -/
theorem step_of_call {m : Machine} {target : Address} (current : m.current = .ok (.call target))
    (room : m.stack.depth < 16) :
    ∃ m₁, step m = .ok .jump m₁ ∧ m₁.pc = target.val ∧
      m₁.stack.toList = m.stack.toList ++ [m.pc] := by
  have pushes : (m.stack.push? m.pc).isSome := by
    rw [Stack.push?_isSome]
    exact decide_eq_true room
  obtain ⟨stack, pushed⟩ := Option.isSome_iff_exists.mp pushes
  refine ⟨{ m with pc := target.val, stack }, ?_, rfl, Stack.toList_of_push? pushed⟩
  rw [step_eq, current]
  dsimp only
  rw [performAndAdvance_apply, perform, performCall_apply, pushed]
  rfl

/-- A call with a free slot succeeds. However the run goes on, when it first comes about that the
    stack is no deeper than before the call, that is by a return, it is exactly as before, and the
    program counter is back at the call. -/
theorem returns_to_call (m : Machine) (word : Int) (room : m.stack.depth < 16)
    (fetched : fetch m = .ok word m) (isCall : word / 0x1000 = 2) :
    ∃ m₁, step m = .ok .jump m₁ ∧ m₁.pc = word % 0x1000 ∧
      m₁.stack.depth = m.stack.depth + 1 ∧
      ∀ calls m₂ (c : Call) answer m₃, m₁.CompletesAbove m.stack.depth calls m₂ →
        c.exec m₂ = .ok answer m₃ → m₃.stack.depth ≤ m.stack.depth →
          c = .step ∧ fetch m₂ = .ok 0x00EE m₂ ∧ m₃.pc = m.pc ∧
            m₃.stack.depth = m.stack.depth ∧ m₃.stack.toList = m.stack.toList := by
  obtain ⟨target, goes, current⟩ := current_of_fetch_call fetched isCall
  obtain ⟨m₁, stepped, pc, pushed⟩ := step_of_call current room
  refine ⟨m₁, stepped, pc.trans goes, ?_, fun calls m₂ c answer m₃ above done shallow => ?_⟩
  · simpa only [List.length_append, List.length_singleton, Stack.length_toList] using
      congrArg List.length pushed
  · have lies : m.stack.toList ++ [m.pc] <+: m₂.stack.toList := by
      refine above.prefix (pushed ▸ List.prefix_rfl) ?_
      rw [List.length_append, List.length_singleton, Stack.length_toList]
    obtain ⟨isStep, isReturn, back, same⟩ :=
      ret_of_exec done lies (by rwa [Stack.length_toList])
    have depth := congrArg List.length same
    rw [Stack.length_toList, Stack.length_toList] at depth
    exact ⟨isStep, fetch_of_current isReturn, back, depth, same⟩

/-- A subroutine that calls another one, by which the nested call itself becomes a return. -/
theorem returns_to_call_overwritten :
    ∃ memory,
      Memory.ofSize.load [0x22, 0x02, 0x22, 0x04, 0xF1, 0x55, 0x00, 0xEE] = .ok memory ∧
      let m : Machine :=
        { random := .ofList [1], memory, timers := ⟨5, 0⟩,
          registers := (Vector.replicate 16 0).set 1 0xEE, index := 0x202 }
      let calls : List Call := [.step, .tick, .step, .press 5, .step]
      ∃ m₁ m₂ m₃, step m = .ok .jump m₁ ∧ m₁.CompletesAbove 0 calls m₂ ∧
        m₁.memory.readWord 0x202 = .ok 0x2204 ∧ Call.exec .step m₂ = .ok (some .jump) m₃ ∧
        fetch m₂ = .ok 0x00EE m₂ ∧ m₃.pc = 0x200 ∧ m₃.stack.depth = 0 := by
  obtain ⟨memory, loaded, size, -⟩ :=
    Memory.exists_loaded [0x22, 0x02, 0x22, 0x04, 0xF1, 0x55, 0x00, 0xEE] (by simp)
  refine ⟨memory, loaded, ?_⟩
  intro m calls
  obtain ⟨memory', written⟩ : ∃ memory', memory.writeBlock 0x202 [0x00, 0xEE] = .ok memory' :=
    ⟨_, (memory.writeBlock_eq_ok_iff _ _ _).mpr ⟨by decide, by rw [size]; decide, rfl⟩⟩
  let m₁ : Machine :=
    { m with pc := 0x202, stack := ⟨m.stack.slots.set 0 m.pc, 1, by decide⟩ }
  let m₂ : Machine :=
    { m₁ with pc := 0x204, stack := ⟨m₁.stack.slots.set 1 m₁.pc, 2, by decide⟩ }
  let m₃ : Machine := { m₂.tick with memory := memory', pc := 0x206 }
  let m₄ : Machine :=
    { m₃.press 5 with pc := 0x202, stack := ⟨m₂.stack.slots, 1, by decide⟩ }
  let m₅ : Machine := { m₄ with pc := m.pc, stack := ⟨m₂.stack.slots, 0, by decide⟩ }
  have outer : m.memory.readWord m.pc = .ok (Instruction.word (.call 0x202)) :=
    Memory.readWord_of_load loaded 0 rfl rfl rfl
  have inner : m₁.memory.readWord m₁.pc = .ok (Instruction.word (.call 0x204)) :=
    Memory.readWord_of_load loaded 2 rfl rfl rfl
  have stores : m₂.tick.memory.readWord m₂.tick.pc =
      .ok (Instruction.word (.storeRegisters 1)) :=
    Memory.readWord_of_load loaded 4 rfl rfl rfl
  have last : memory.readWord 0x206 = .ok (Instruction.word .ret) :=
    Memory.readWord_of_load loaded 6 rfl rfl rfl
  have returns : memory'.readWord 0x206 = .ok (Instruction.word .ret) := by
    refine Memory.readWord_congr last fun i low _ => Memory.getElem?_of_writeBlock written ?_
    simp only [List.length_cons, List.length_nil]
    omega
  have changed : memory'.readWord 0x202 = .ok (Instruction.word .ret) :=
    Memory.readWord_of_writeBlock written
  have first : step m = .ok .jump m₁ := by
    rw [step_word (i := .call 0x202) id outer]
    rfl
  have second : step m₁ = .ok .jump m₂ := by
    rw [step_word (i := .call 0x204) id inner]
    rfl
  have third : step m₂.tick = .ok .next m₃ := by
    have written : m₂.tick.memory.writeBlock m₂.tick.index
        (m₂.tick.registers.toList.take ((1 : Register).val + 1)) = .ok memory' := written
    rw [step_word (i := .storeRegisters 1) id stores, performAndAdvance_apply,
      perform_storeRegisters, performWrite_apply, written]
    rfl
  have fourth : step (m₃.press 5) = .ok .jump m₄ := by
    rw [step_word (m := m₃.press 5) (i := .ret) id returns]
    rfl
  have fifth : step m₄ = .ok .jump m₅ := by
    rw [step_word (m := m₄) (i := .ret) id changed]
    rfl
  have above : m₁.CompletesAbove 0 calls m₄ :=
    ⟨Nat.succ_pos 0, _, _, exec_of_step second, Nat.succ_pos 1, _, _, rfl,
      Nat.succ_pos 1, _, _, exec_of_step third, Nat.succ_pos 1, _, _, rfl,
      Nat.succ_pos 1, _, _, exec_of_step fourth, Nat.succ_pos 0, rfl⟩
  have done := exec_of_step fifth
  obtain ⟨_, stepped, -, -, goesOn⟩ :=
    returns_to_call m 0x2202 (Nat.succ_pos 15) (fetch_eq_ok_iff.mpr outer) rfl
  obtain ⟨-, rfl⟩ := EStateM.Result.ok.inj (first.symm.trans stepped)
  obtain ⟨-, ret, back, depth, -⟩ := goesOn calls m₄ .step _ m₅ above done (Nat.le_refl 0)
  exact ⟨m₁, m₄, m₅, first, above, inner, done, ret, back, depth⟩

end ChipEight.Machine
