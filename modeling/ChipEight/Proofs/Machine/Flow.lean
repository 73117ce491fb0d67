import ChipEight.Proofs.Machine.Faults

/-!
# Control flow

The program counter is written in two places: a jump sets it, and behind every instruction it is
moved as the instruction asked for. `Machine.course?` tells from the state of a machine and its
opcode where the two together leave it, and what the step answers (`control_flow`). The
conditions to skip come in three pairs, of which exactly one holds in every state.
-/

namespace ChipEight

/-- No key is pressed. -/
def Keypad.Idle (p : Keypad) : Prop :=
  ∀ key : Key, p.keys.get key = false

theorem Keypad.firstPressed?_isNone_iff (p : Keypad) : p.firstPressed?.isNone ↔ p.Idle := by
  simp [firstPressed?, Idle, Vector.get_eq_getElem]

instance (p : Keypad) : Decidable p.Idle :=
  decidable_of_iff _ p.firstPressed?_isNone_iff

namespace Machine

open Opcode (Matches MatchesOne pattern matches_iff_of_decode?)

/-! ## Where steps go -/

/-- The key that the low nibble of a register names. -/
def keyIn (m : Machine) (x : Register) : Key :=
  ⟨(m.register x).toNat % 16, Nat.mod_lt _ (by decide)⟩

/-- Whether an opcode skips the next instruction. -/
def Skips (m : Machine) (opcode : Nat) : Prop :=
  let x := Opcode.x opcode
  let y := Opcode.y opcode
  Matches "3XNN" opcode ∧ m.register x = Opcode.nn opcode ∨
    Matches "4XNN" opcode ∧ m.register x ≠ Opcode.nn opcode ∨
    Matches "5XY0" opcode ∧ m.register x = m.register y ∨
    Matches "9XY0" opcode ∧ m.register x ≠ m.register y ∨
    Matches "EX9E" opcode ∧ m.keypad.keys.get (m.keyIn x) = true ∨
    Matches "EXA1" opcode ∧ m.keypad.keys.get (m.keyIn x) = false

instance (m : Machine) (opcode : Nat) : Decidable (m.Skips opcode) := by
  unfold Skips
  infer_instance

/-- What a step with an opcode answers and where it goes, if it succeeds. -/
def course? (m : Machine) (opcode : Nat) : Option (Advance × Int) :=
  if Matches "00EE" opcode then m.stack.toList.getLast?.map fun pc => (.jump, pc)
  else if MatchesOne ["1NNN", "2NNN"] opcode then some (.jump, (Opcode.nnn opcode).val)
  else if Matches "BNNN" opcode then
    some (.jump, (m.register 0).toNat + (Opcode.nnn opcode).val)
  else if Matches "FX0A" opcode ∧ m.keypad.Idle then some (.again, m.pc)
  else if m.Skips opcode then some (.skip, m.pc + 4)
  else some (.next, m.pc + 2)

/-! ## Instructions -/

/-- Whether an instruction skips the next one. -/
def skips (m : Machine) : Instruction → Bool
  | .skipEqual x value => m.register x == value
  | .skipUnequal x value => m.register x != value
  | .skipSame x y => m.register x == m.register y
  | .skipDifferent x y => m.register x != m.register y
  | .skipPressed x => m.keypad.isPressed (m.register x).toNat
  | .skipReleased x => !m.keypad.isPressed (m.register x).toNat
  | _ => false

/-- What an instruction asks for and where it goes. -/
def target? (m : Machine) : Instruction → Option (Advance × Int)
  | .ret => m.stack.toList.getLast?.map fun pc => (.jump, pc)
  | .jump target | .call target => some (.jump, target.val)
  | .jumpOffset target => some (.jump, (m.register 0).toNat + target.val)
  | .waitKey _ => if m.keypad.Idle then some (.again, m.pc) else some (.next, m.pc + 2)
  | i => if m.skips i then some (.skip, m.pc + 4) else some (.next, m.pc + 2)

theorem isPressed_register (m : Machine) (x : Register) :
    m.keypad.isPressed (m.register x).toNat = m.keypad.keys.get (m.keyIn x) := by
  have same : Nibble.ofInt (m.register x).toNat = m.keyIn x := by
    apply Fin.ext
    simp only [Nibble.ofInt, keyIn]
    omega
  rw [← same]
  rfl

/-- No address behind an instruction in memory is reduced. -/
theorem pc_advance_next {m m₁ : Machine} (low : 0 ≤ m.pc) (near : m.pc ≤ 0xFFE)
    (same : m₁.pc = m.pc) : (m₁.advance .next).pc = m.pc + 2 := by
  simp only [advance, same]
  omega

theorem pc_advance_skip {m : Machine} (low : 0 ≤ m.pc) (near : m.pc ≤ 0xFFE) :
    (m.advance .skip).pc = m.pc + 4 := by
  simp only [advance]
  omega

theorem advance_skipWhen {m : Machine} (low : 0 ≤ m.pc) (near : m.pc ≤ 0xFFE) (condition : Bool) :
    let advance : Advance := if condition then .skip else .next
    (if condition then some (.skip, m.pc + 4) else some (.next, m.pc + 2)) =
      some (advance, (m.advance advance).pc) := by
  cases condition with
  | true => simp [pc_advance_skip low near]
  | false => simp [pc_advance_next low near rfl]

/-- An instruction that succeeds leaves the program counter, moved as it asked for, at its target. -/
theorem target?_of_perform {i : Instruction} {m m₁ : Machine} {advance : Advance}
    (low : 0 ≤ m.pc) (near : m.pc ≤ 0xFFE) (performed : perform i m = .ok advance m₁) :
    m.target? i = some (advance, (m₁.advance advance).pc) := by
  have onward {m₁ : Machine} (same : m₁.pc = m.pc) :
      some (Advance.next, m.pc + 2) = some (.next, (m₁.advance .next).pc) := by
    rw [pc_advance_next low near same]
  cases i with
  | skipEqual _ _ | skipUnequal _ _ | skipSame _ _ | skipDifferent _ _ | skipPressed _
  | skipReleased _ =>
    cases performed
    exact advance_skipWhen low near _
  | ret =>
    obtain ⟨pc, stack, popped, rfl, rfl⟩ := performReturn_eq_ok performed
    simp only [target?, Stack.toList_of_pop? popped, List.getLast?_concat, Option.map_some]
    rfl
  | jump _ | jumpOffset _ =>
    cases performed
    rfl
  | call target =>
    obtain ⟨stack, -, rfl, rfl⟩ := performCall_eq_ok performed
    rfl
  | waitKey x =>
    obtain ⟨nothing, rfl, rfl⟩ | ⟨key, pressed, rfl, rfl⟩ := performWaitKey_eq_ok performed
    · have idle : m₁.keypad.Idle := by simp [← Keypad.firstPressed?_isNone_iff, nothing]
      rw [target?, if_pos idle]
      rfl
    · have busy : ¬ m.keypad.Idle := by simp [← Keypad.firstPressed?_isNone_iff, pressed]
      rw [target?, if_neg busy]
      exact onward rfl
  | random x mask =>
    obtain ⟨b, random, -, rfl, rfl⟩ := performRandom_eq_ok performed
    exact onward rfl
  | draw x y rows =>
    obtain ⟨sprite, -, rfl, rfl⟩ := performDraw_eq_ok performed
    exact onward rfl
  | storeDecimal x | storeRegisters x =>
    obtain ⟨memory, -, rfl, rfl⟩ := performWrite_eq_ok performed
    exact onward rfl
  | loadRegisters x =>
    obtain ⟨block, -, rfl, rfl⟩ := performRead_eq_ok performed
    exact onward rfl
  | _ =>
    cases performed
    exact onward rfl

/-! ## Steps -/

/-- The course of a step, as its opcode tells it, is the target of its instruction. -/
theorem course?_of_decode? {m : Machine} {i : Instruction} {opcode : Nat} (bound : opcode < 0x10000)
    (decoded : Opcode.decode? opcode = some i) : m.course? opcode = m.target? i := by
  have word := Opcode.word_of_decode? bound decoded
  have is (p : String) (special : p ∈ Opcode.patterns ∧ p ≠ "0NNN") :
      Matches p opcode ↔ pattern i = p :=
    matches_iff_of_decode? bound decoded special.1 special.2
  -- What the opcode matches is a question about the pattern of the instruction.
  simp only [course?, MatchesOne, Skips, List.mem_cons, List.not_mem_nil, or_false,
    exists_eq_or_imp, exists_eq_left, is "00EE" (by decide), is "1NNN" (by decide),
    is "2NNN" (by decide), is "BNNN" (by decide), is "FX0A" (by decide), is "3XNN" (by decide),
    is "4XNN" (by decide), is "5XY0" (by decide), is "9XY0" (by decide), is "EX9E" (by decide),
    is "EXA1" (by decide)]
  cases i with
  | jump target | call target | jumpOffset target =>
    simp only [Instruction.word] at word
    have field : Opcode.nnn opcode = target := Opcode.nnn_eq (by omega)
    simp [pattern, target?, field]
  | skipEqual x value | skipUnequal x value =>
    have first : Opcode.x opcode = x := word ▸ Opcode.x_word rfl
    have narrow := value.toNat_lt
    simp only [Instruction.word] at word
    have field : Opcode.nn opcode = value := Opcode.nn_eq (by omega)
    simp [pattern, target?, skips, first, field]
  | skipSame x y | skipDifferent x y =>
    have first : Opcode.x opcode = x := word ▸ Opcode.x_word rfl
    simp only [Instruction.word] at word
    have second : Opcode.y opcode = y := Opcode.y_eq (by omega)
    simp [pattern, target?, skips, first, second]
  | skipPressed x | skipReleased x =>
    have first : Opcode.x opcode = x := word ▸ Opcode.x_word rfl
    simp [pattern, target?, skips, first, isPressed_register]
  | _ => simp [pattern, target?, skips]

/-! ## Conditions to skip -/

/-- Of two instructions exactly one skips: the first if a condition holds, and else the second. -/
def OneSkips (m : Machine) (i j : Instruction) (condition : Bool) : Prop :=
  let first : Advance := if condition then .skip else .next
  let second : Advance := if condition then .next else .skip
  execute i.word m = .ok first (m.advance first) ∧ execute j.word m = .ok second (m.advance second)

theorem execute_skipWhen {i : Instruction} {condition : Machine → Bool}
    (performs : perform i = skipWhen condition) (notCollides : ¬ Opcode.Collides i) (m : Machine) :
    let advance : Advance := if condition m then .skip else .next
    execute i.word m = .ok advance (m.advance advance) := by
  rw [execute_word i notCollides, performAndAdvance_apply, performs, skipWhen_apply]

theorem oneSkips_of_perform (i j : Instruction) {condition : Machine → Bool}
    (first : perform i = skipWhen condition) (second : perform j = skipWhen fun m => !condition m)
    (firstPlain : ¬ Opcode.Collides i) (secondPlain : ¬ Opcode.Collides j) (m : Machine) :
    m.OneSkips i j (condition m) := by
  have executed := execute_skipWhen second secondPlain m
  refine ⟨execute_skipWhen first firstPlain m, ?_⟩
  cases holds : condition m with
  | true => simpa [holds] using executed
  | false => simpa [holds] using executed

/-- A step that succeeds takes the course that its opcode tells from the state in front of it; the
    furthest a jump can lead is `0x10FE`. And in every state exactly one of two opposite conditions
    to skip holds. -/
theorem control_flow (m : Machine) :
    (m.Invariant → ∀ advance m', step m = .ok advance m' → ∃ opcode : Nat,
      fetch m = .ok opcode m ∧ m.course? opcode = some (advance, m'.pc) ∧
        (Matches "BNNN" opcode → m'.pc ≤ 0x10FE)) ∧
      (∀ x value,
        m.OneSkips (.skipEqual x value) (.skipUnequal x value) (m.register x == value)) ∧
      (∀ x y, m.OneSkips (.skipSame x y) (.skipDifferent x y) (m.register x == m.register y)) ∧
      ∀ x, m.OneSkips (.skipPressed x) (.skipReleased x) (m.keypad.keys.get (m.keyIn x)) := by
  refine ⟨fun h advance m' stepped => ?_, fun x value => ?_, fun x y => ?_, fun x => ?_⟩
  · obtain ⟨i, m₁, found, performed, rfl⟩ := step_eq_ok stepped
    obtain ⟨low, inside⟩ := pc_of_current found
    rw [h.memory_size] at inside
    refine ⟨i.word, fetch_of_current found, ?_, fun _ => ?_⟩
    · rw [course?_of_decode? i.word_lt (readWord_of_current found).2]
      exact target?_of_perform low (by omega) performed
    · have kept := h.step
      rw [stepped] at kept
      exact kept.pc.2
  · exact oneSkips_of_perform (.skipEqual x value) (.skipUnequal x value) rfl rfl id id m
  · exact oneSkips_of_perform (.skipSame x y) (.skipDifferent x y) rfl rfl id id m
  · rw [← isPressed_register]
    exact oneSkips_of_perform (.skipPressed x) (.skipReleased x) rfl rfl id id m

/-- The furthest jump there is, and a key that is named by the low nibble of `0x1F`. -/
theorem control_flow_furthest :
    ∃ memory, Memory.ofSize.load [0xBF, 0xFF] = .ok memory ∧
      let m : Machine :=
        { random := .ofList [1], memory, keypad := Keypad.press {} 0xF,
          registers := #v[0xFF, 0x1F, 0, 0, 0, 0, 0, 0, 0, 0, 0, 0, 0, 0, 0, 0] }
      m.Invariant ∧ step m = .ok .jump { m with pc := 0x10FE } ∧
        m.course? 0xBFFF = some (.jump, 0x10FE) ∧
        execute 0xE19E m = .ok .skip (m.advance .skip) ∧
        execute 0xE1A1 m = .ok .next (m.advance .next) := by
  have new : Invariant { random := .ofList [1] } := invariant_new (Nat.succ_pos 0)
  obtain ⟨memory, loaded, size, -⟩ := Memory.exists_loaded [0xBF, 0xFF] (by simp)
  let m : Machine :=
    { random := .ofList [1], memory, keypad := Keypad.press {} 0xF, pc := (0x200 : Nat),
      registers := #v[0xFF, 0x1F, 0, 0, 0, 0, 0, 0, 0, 0, 0, 0, 0, 0, 0, 0] }
  have h : m.Invariant := ⟨new.index, new.pc, new.slots, new.delay, new.sound, size, new.random⟩
  have read : m.memory.readWord m.pc = .ok (Instruction.word (.jumpOffset 0xFFF)) :=
    Memory.readWord_of_load loaded 0 rfl rfl rfl
  have stepped : step m = .ok .jump { m with pc := 0x10FE } := by
    rw [step_word (i := .jumpOffset 0xFFF) id read]
    rfl
  obtain ⟨flow, -, -, keys⟩ := control_flow m
  obtain ⟨opcode, fetched, course, -⟩ := flow h _ _ stepped
  obtain rfl := eq_of_fetch fetched read
  have names : m.keyIn 1 = 0xF := by simp [keyIn, register, m]
  have pressed : m.keypad.keys.get (m.keyIn 1) = true :=
    (Keypad.getElem_press {} 0xF (m.keyIn 1)).trans (by simp [names])
  obtain ⟨skips, goesOn⟩ := keys 1
  rw [pressed] at skips goesOn
  exact ⟨memory, loaded, h, stepped, course, skips, goesOn⟩

end Machine

end ChipEight
