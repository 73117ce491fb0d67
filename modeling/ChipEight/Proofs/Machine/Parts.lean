import ChipEight.Proofs.Machine.Invariant
import ChipEight.Proofs.Machine.Registers
import ChipEight.Proofs.Pattern

/-!
# The parts of a machine

A machine is made of bytes of memory, registers, stack slots and so on, and each instruction has its
own few of them that it can change. `MayChange` says for each part which opcodes those are, and
`same_of_perform` that no instruction changes another part. It is the same with what a driver asks
of a machine (`changes_own_parts`).
-/

namespace ChipEight.Machine

open Opcode (Matches MatchesOne pattern matches_word)

inductive Part
  | byte (address : Nat)
  | display
  | register (x : Register)
  | index
  | pc
  | slot (number : Fin 16)
  | depth
  | delay
  | sound
  | key (key : Key)
  | random
  deriving DecidableEq, Repr

/-- A part is the same in two machines. -/
def Part.Same (m m' : Machine) : Part → Prop
  | .byte address => m'.memory.bytes[address]? = m.memory.bytes[address]?
  | .display => m'.display = m.display
  | .register x => m'.register x = m.register x
  | .index => m'.index = m.index
  | .pc => m'.pc = m.pc
  | .slot number => m'.stack.slots.get number = m.stack.slots.get number
  | .depth => m'.stack.depth = m.stack.depth
  | .delay => m'.timers.delay = m.timers.delay
  | .sound => m'.timers.sound = m.timers.sound
  | .key k => m'.keypad.keys.get k = m.keypad.keys.get k
  | .random => m'.random = m.random

/-- The parts of a machine that an opcode may change. -/
def MayChange (m : Machine) (opcode : Nat) : Part → Prop
  | .byte address =>
    Matches "FX33" opcode ∧ m.index ≤ address ∧ address ≤ m.index + 2 ∨
      Matches "FX55" opcode ∧ m.index ≤ address ∧ address ≤ m.index + (Opcode.x opcode).val
  | .display => MatchesOne ["00E0", "DXYN"] opcode
  | .register r =>
    MatchesOne ["6XNN", "7XNN", "8XY0", "8XY1", "8XY2", "8XY3", "CXNN", "FX07", "FX0A"] opcode ∧
        r = Opcode.x opcode ∨
      MatchesOne ["8XY4", "8XY5", "8XY6", "8XY7", "8XYE"] opcode ∧ (r = Opcode.x opcode ∨ r = .flag) ∨
      Matches "DXYN" opcode ∧ r = .flag ∨
      Matches "FX65" opcode ∧ r ≤ Opcode.x opcode
  | .index => MatchesOne ["ANNN", "FX1E", "FX29"] opcode
  | .pc => True
  | .slot number => Matches "2NNN" opcode ∧ number.val = m.stack.depth
  | .depth => MatchesOne ["2NNN", "00EE"] opcode
  | .delay => Matches "FX15" opcode
  | .sound => Matches "FX18" opcode
  | .key _ => False
  | .random => Matches "CXNN" opcode

/-- The parts of a machine that a call from outside may change. -/
def Call.MayChange (m : Machine) : Call → Part → Prop
  | .load _, part => ∃ address ≥ 0x200, part = .byte address
  | .step, part => ∃ opcode : Nat, fetch m = .ok opcode m ∧ Machine.MayChange m opcode part
  | .tick, part => part = .delay ∨ part = .sound
  | .press key, part | .release key, part => part = .key key

/-! ## Changes -/

@[simp] theorem Part.same_refl (m : Machine) (part : Part) : part.Same m m := by
  cases part <;> rfl

/-- The parts are all there is to a machine. -/
theorem eq_of_same {m m' : Machine} (same : ∀ part : Part, part.Same m m') : m' = m := by
  obtain ⟨random, ⟨bytes⟩, ⟨keys⟩, ⟨delay, sound⟩, ⟨pixels⟩, registers, index, pc,
    ⟨slots, depth, bound⟩⟩ := m
  obtain ⟨random', ⟨bytes'⟩, ⟨keys'⟩, ⟨delay', sound'⟩, ⟨pixels'⟩, registers', index', pc',
    ⟨slots', depth', bound'⟩⟩ := m'
  obtain rfl : bytes' = bytes := Array.ext_getElem? fun address => same (.byte address)
  obtain rfl : keys' = keys := Vector.ext fun i inside => same (.key ⟨i, inside⟩)
  obtain rfl : registers' = registers := Vector.ext fun i inside => same (.register ⟨i, inside⟩)
  obtain rfl : slots' = slots := Vector.ext fun i inside => same (.slot ⟨i, inside⟩)
  obtain rfl : random' = random := same .random
  obtain rfl : delay' = delay := same .delay
  obtain rfl : sound' = sound := same .sound
  obtain rfl : pixels' = pixels := congrArg Display.pixels (same .display)
  obtain rfl : index' = index := same .index
  obtain rfl : pc' = pc := same .pc
  obtain rfl : depth' = depth := same .depth
  rfl

theorem same_setRegister {m : Machine} {part : Part} {x : Register} (value : UInt8)
    (other : part ≠ .register x) : part.Same m (m.setRegister x value) := by
  cases part with
  | register r => exact register_setRegister_of_ne m value fun same => other (congrArg _ same)
  | _ => rfl

theorem same_setWithFlag {m : Machine} {part : Part} {x : Register} (value : UInt8) (flag : Bool)
    (other : part ≠ .register x) (plain : part ≠ .register .flag) :
    part.Same m (m.setWithFlag x value flag) := by
  cases part with
  | register r =>
    exact register_setWithFlag_of_ne m value flag (fun same => other (congrArg _ same))
      (fun same => plain (congrArg _ same))
  | _ => rfl

theorem matchesOne_word {patterns : List String} (i : Instruction) (listed : pattern i ∈ patterns) :
    MatchesOne patterns i.word :=
  ⟨_, listed, matches_word i⟩

theorem slots_of_push? {s t : Stack} {value : Int} (h : s.push? value = some t) :
    ∀ number : Fin 16, number.val ≠ s.depth → t.slots[number] = s.slots[number] := by
  unfold Stack.push? at h
  split at h
  · next room =>
    obtain rfl := Option.some.inj h
    exact fun number other => Vector.getElem_set_ne room _ other.symm
  · cases h

/-- Only the bytes of a block that is written can change. -/
theorem same_performWrite {block : List UInt8} {m m' : Machine} {advance : Advance} {part : Part}
    (h : performWrite block m = .ok advance m')
    (outside : ∀ address : Nat, part = .byte address →
      ¬ (m.index ≤ address ∧ address < m.index + block.length)) :
    part.Same m m' := by
  obtain ⟨memory, written, rfl, rfl⟩ := performWrite_eq_ok h
  cases part with
  | byte address => exact Memory.getElem?_of_writeBlock written (outside address rfl)
  | _ => rfl

/-- No instruction changes a part that its opcode may not change. -/
theorem same_of_perform {i : Instruction} {m m' : Machine} {advance : Advance} {part : Part}
    (h : perform i m = .ok advance m') (closed : ¬ MayChange m i.word part) :
    part.Same m m' := by
  cases i with
  | sys _ | skipEqual _ _ | skipUnequal _ _ | skipSame _ _ | skipDifferent _ _ | skipPressed _
  | skipReleased _ =>
    cases h
    exact part.same_refl m
  | load x _ | add x _ | copy x _ | or x _ | and x _ | xor x _ | readDelay x =>
    cases h
    refine same_setRegister _ ?_
    rintro rfl
    exact closed (.inl ⟨matchesOne_word _ (by simp [pattern]), (Opcode.x_word rfl).symm⟩)
  | addRegister x _ | sub x _ | shiftRight x _ | subFrom x _ | shiftLeft x _ =>
    cases h
    refine same_setWithFlag _ _ ?_ ?_
    · rintro rfl
      exact closed (.inr (.inl
        ⟨matchesOne_word _ (by simp [pattern]), .inl (Opcode.x_word rfl).symm⟩))
    · rintro rfl
      exact closed (.inr (.inl ⟨matchesOne_word _ (by simp [pattern]), .inr rfl⟩))
  | clear =>
    cases h
    cases part with
    | display => exact absurd (matchesOne_word .clear (by simp [pattern])) closed
    | _ => rfl
  | ret =>
    obtain ⟨pc, stack, popped, rfl, rfl⟩ := performReturn_eq_ok h
    cases part with
    | pc => exact absurd trivial closed
    | depth => exact absurd (matchesOne_word .ret (by simp [pattern])) closed
    | slot number =>
      -- The value that is popped stays in its slot.
      exact congrArg (·[number]) (mem_slots_of_pop? popped).2
    | _ => rfl
  | call target =>
    obtain ⟨stack, pushed, rfl, rfl⟩ := performCall_eq_ok h
    cases part with
    | pc => exact absurd trivial closed
    | depth => exact absurd (matchesOne_word (.call target) (by simp [pattern])) closed
    | slot number =>
      exact slots_of_push? pushed number fun top => closed ⟨matches_word (.call target), top⟩
    | _ => rfl
  | jump _ | jumpOffset _ =>
    cases h
    cases part with
    | pc => exact absurd trivial closed
    | _ => rfl
  | loadIndex _ | addIndex _ | loadGlyph _ =>
    cases h
    cases part with
    | index => exact absurd (matchesOne_word _ (by simp [pattern])) closed
    | _ => rfl
  | setDelay x =>
    cases h
    cases part with
    | delay => exact absurd (matches_word (.setDelay x)) closed
    | _ => rfl
  | setSound x =>
    cases h
    cases part with
    | sound => exact absurd (matches_word (.setSound x)) closed
    | _ => rfl
  | random x mask =>
    obtain ⟨b, random, -, rfl, rfl⟩ := performRandom_eq_ok h
    cases part with
    | random => exact absurd (matches_word (.random x mask)) closed
    | register r =>
      refine register_setRegister_of_ne m _ fun same => closed (.inl
        ⟨matchesOne_word _ (by simp [pattern]), same.trans (Opcode.x_word rfl).symm⟩)
    | _ => rfl
  | waitKey x =>
    obtain ⟨-, rfl, rfl⟩ | ⟨key, -, rfl, rfl⟩ := performWaitKey_eq_ok h
    · exact part.same_refl _
    · refine same_setRegister _ ?_
      rintro rfl
      exact closed (.inl ⟨matchesOne_word _ (by simp [pattern]), (Opcode.x_word rfl).symm⟩)
  | draw x y rows =>
    obtain ⟨sprite, -, rfl, rfl⟩ := performDraw_eq_ok h
    cases part with
    | display => exact absurd (matchesOne_word (.draw x y rows) (by simp [pattern])) closed
    | register r =>
      exact register_setRegister_of_ne m _ fun same =>
        closed (.inr (.inr (.inl ⟨matches_word (.draw x y rows), same⟩)))
    | _ => rfl
  | storeDecimal x =>
    rw [perform_storeDecimal] at h
    refine same_performWrite h ?_
    rintro address rfl ⟨low, high⟩
    refine closed (.inl ⟨matches_word (.storeDecimal x), low, ?_⟩)
    simp only [List.length_cons, List.length_nil] at high
    omega
  | storeRegisters x =>
    rw [perform_storeRegisters] at h
    refine same_performWrite h ?_
    rintro address rfl ⟨low, high⟩
    refine closed (.inr ⟨matches_word (.storeRegisters x), low, ?_⟩)
    rw [List.length_take, Vector.length_toList] at high
    rw [Opcode.x_word rfl]
    omega
  | loadRegisters x =>
    obtain ⟨block, read, rfl, rfl⟩ := performRead_eq_ok h
    cases part with
    | register r =>
      have behind : x.val < r.val := Nat.lt_of_not_le fun inside =>
        closed (.inr (.inr (.inr ⟨matches_word (.loadRegisters x), by rwa [Opcode.x_word rfl]⟩)))
      exact m.register_setRegisters_of_lt _ behind
    | _ => rfl

theorem same_advance (m : Machine) (advance : Advance) {part : Part} (other : part ≠ .pc) :
    part.Same m (m.advance advance) := by
  cases advance <;> cases part <;> first | rfl | exact absurd rfl other

theorem Part.Same.trans {m m₁ m' : Machine} {part : Part} (first : part.Same m m₁)
    (second : part.Same m₁ m') : part.Same m m' := by
  cases part <;> exact Eq.trans second first

/-- An opcode that is executed without a fault changes no part but those that it may change. -/
theorem same_of_execute {opcode : Nat} {m m' : Machine} {advance : Advance} {part : Part}
    (h : execute opcode m = .ok advance m') (closed : ¬ MayChange m opcode part) :
    part.Same m m' := by
  obtain ⟨i, m₁, rfl, -, performed, rfl⟩ := execute_eq_ok h
  refine (same_of_perform performed closed).trans (same_advance m₁ advance ?_)
  rintro rfl
  exact closed trivial

/-- A step that succeeds changes no part but those that the opcode it fetched may change. -/
theorem same_of_step {m m' : Machine} {advance : Advance} {part : Part}
    (h : step m = .ok advance m') (closed : ¬ Call.MayChange m .step part) :
    part.Same m m' := by
  obtain ⟨i, m₁, found, performed, rfl⟩ := step_eq_ok h
  have closed : ¬ MayChange m i.word part := fun may => closed ⟨_, fetch_of_current found, may⟩
  refine (same_of_perform performed closed).trans (same_advance m₁ advance ?_)
  rintro rfl
  exact closed trivial

/-- Whatever a driver asks of a machine, and whether or not it faults, it changes only parts that
    belong to it: a step those of the opcode that it fetches, a load the bytes from `0x200` on, a tick
    the timers, and a key event the flag of its key. -/
theorem changes_own_parts (m : Machine) (c : Call) (part : Part) (closed : ¬ c.MayChange m part) :
    part.Same m (m.after c) := by
  cases c with
  | load rom =>
    rw [after, exec_load]
    cases loaded : m.memory.load rom with
    | error fault => exact part.same_refl m
    | ok memory =>
      cases part with
      | byte address =>
        refine Memory.getElem?_of_load loaded (Nat.lt_of_not_le fun behind => ?_)
        exact closed ⟨address, behind, rfl⟩
      | _ => rfl
  | step =>
    rw [after_step]
    cases stepped : step m with
    | error fault m' =>
      obtain ⟨rfl, -⟩ := step_eq_error stepped
      exact part.same_refl _
    | ok advance m' => exact same_of_step stepped closed
  | tick =>
    cases part with
    | delay => exact absurd (.inl rfl) closed
    | sound => exact absurd (.inr rfl) closed
    | _ => rfl
  | press key =>
    cases part with
    | key other =>
      have apart : key ≠ other := fun same => closed (congrArg _ same.symm)
      exact (m.keypad.getElem_press key other).trans (by simp [apart, Vector.get_eq_getElem])
    | _ => rfl
  | release key =>
    cases part with
    | key other =>
      have apart : key ≠ other := fun same => closed (congrArg _ same.symm)
      exact (m.keypad.getElem_release key other).trans (by simp [apart, Vector.get_eq_getElem])
    | _ => rfl

/-- Registers 0 and 1 are stored: the byte behind theirs is not touched. -/
theorem changes_own_parts_store :
    ∃ memory, Memory.ofSize.load [0xF1, 0x55, 7, 8, 9] = .ok memory ∧
      let m : Machine := { random := .ofList [1], memory, index := 0x202 }
      ¬ Call.MayChange m .step (.byte 0x204) ∧ Part.Same m (m.after .step) (.byte 0x204) ∧
        (m.after .step).memory.bytes[0x203]? = some 0 ∧
        (m.after .step).memory.bytes[0x204]? = some 9 := by
  obtain ⟨memory, loaded, size, bytes⟩ := Memory.exists_loaded [0xF1, 0x55, 7, 8, 9] (by simp)
  refine ⟨memory, loaded, ?_⟩
  intro m
  have read : m.memory.readWord m.pc = .ok (Instruction.word (.storeRegisters 1)) :=
    Memory.readWord_of_load loaded 0 rfl rfl rfl
  obtain ⟨memory', written⟩ : ∃ memory', memory.writeBlock 0x202 [0, 0] = .ok memory' :=
    ⟨_, (memory.writeBlock_eq_ok_iff _ _ _).mpr ⟨by decide, by rw [size]; decide, rfl⟩⟩
  have after : m.after .step = { m with memory := memory', pc := 0x202 } := by
    have written : m.memory.writeBlock m.index
        (m.registers.toList.take ((1 : Register).val + 1)) = .ok memory' := written
    rw [after_step, step_word (i := .storeRegisters 1) id read, performAndAdvance_apply,
      perform_storeRegisters, performWrite_apply, written]
    rfl
  have closed : ¬ Call.MayChange m .step (.byte 0x204) := by
    rintro ⟨opcode, fetched, may⟩
    obtain rfl := eq_of_fetch fetched read
    obtain ⟨isDecimal, -⟩ | ⟨-, -, high⟩ := may
    · exact absurd isDecimal (by decide)
    · change (0x204 : Int) ≤ 0x202 + 1 at high
      omega
  have same := changes_own_parts m .step (.byte 0x204) closed
  have stored : memory'.bytes[0x203]? = some 0 :=
    (Memory.getElem?_of_readBlock (Memory.readBlock_of_writeBlock written)
      (i := 1) (by decide)).symm
  refine ⟨closed, same, ?_, Eq.trans same (bytes 4 (by simp))⟩
  rw [after]
  exact stored

end ChipEight.Machine
