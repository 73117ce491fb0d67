import ChipEight.Proofs.Machine.Invariant
import ChipEight.Proofs.Machine.Pacing
import ChipEight.Proofs.Machine.Registers

/-!
# Random bytes through a run

A source hands out its bytes in order, and only an operation that asks for one takes it: after a run,
the source has handed out as many bytes as such operations were executed (`take?_executions`). So a
run depends on the bytes that it takes and not on where they come from: with another source that
begins with the same bytes it is the same run (`run_reseeded`).
-/

namespace ChipEight

/-! ## Sources -/

namespace Random.Source

/-- The first `n` bytes that a source hands out, if it has so many. -/
def bytes? (s : Source) (n : Nat) : Option (List UInt8) :=
  (s.take? n).map Prod.fst

theorem take?_succ {s s' : Source} {b : UInt8} (next : s.next? = some (b, s')) (n : Nat) :
    s.take? (n + 1) = (s'.take? n).map fun taken => (b :: taken.1, taken.2) := by
  rw [take?, next]
  change ((s'.take? n).bind fun taken => some (b :: taken.1, taken.2)) = _
  rw [Option.map_eq_bind]
  rfl

theorem bytes?_succ {s s' : Source} {b : UInt8} (next : s.next? = some (b, s')) (n : Nat) :
    s.bytes? (n + 1) = (s'.bytes? n).map (b :: ·) := by
  rw [bytes?, take?_succ next, bytes?, Option.map_map, Option.map_map]
  rfl

theorem exists_bytes?_of_endless {s : Source} (endless : s.Endless) (n : Nat) :
    ∃ bytes, s.bytes? n = some bytes := by
  induction n generalizing s with
  | zero => exact ⟨[], rfl⟩
  | succ n ih =>
    obtain ⟨b, s', next, endless'⟩ := Machine.next?_of_endless endless
    obtain ⟨bytes, found⟩ := ih endless'
    exact ⟨b :: bytes, by rw [bytes?_succ next, found, Option.map_some]⟩

/-- A source that begins like another hands out the same byte first, and goes on like it. -/
theorem next?_of_bytes? {s s' t : Source} {b : UInt8} {n : Nat} (endless : s'.Endless)
    (next : s.next? = some (b, s')) (same : t.bytes? (n + 1) = s.bytes? (n + 1)) :
    ∃ t', t.next? = some (b, t') ∧ t'.bytes? n = s'.bytes? n := by
  obtain ⟨bytes, found⟩ := exists_bytes?_of_endless endless n
  rw [bytes?_succ next, found, Option.map_some] at same
  cases first : t.next? with
  | none => simp [bytes?, take?, first] at same
  | some taken =>
    obtain ⟨b', t'⟩ := taken
    rw [bytes?_succ first, Option.map_eq_some_iff] at same
    obtain ⟨rest, found', heads⟩ := same
    obtain ⟨rfl, rfl⟩ := List.cons.inj heads
    exact ⟨t', rfl, found'.trans found.symm⟩

/-- A list that has been replayed `k` times hands out its entry at `k`, counted around the list. -/
theorem next?_sequence {values : Array UInt8} {b : UInt8} {k : Nat}
    (entry : values[k % values.size]? = some b) :
    (sequence values k).next? = some (b, .sequence values (k + 1)) := by
  rw [next?, entry, Option.map_some]

theorem take?_sequence {values : Array UInt8} (nonempty : 0 < values.size) (k n : Nat) :
    ∃ bytes, (sequence values k).take? n = some (bytes, .sequence values (k + n)) := by
  induction n generalizing k with
  | zero => exact ⟨[], rfl⟩
  | succ n ih =>
    have entry := Array.getElem?_eq_getElem (Nat.mod_lt k nonempty)
    obtain ⟨bytes, taken⟩ := ih (k + 1)
    rw [take?_succ (next?_sequence entry), taken, Nat.add_right_comm, Nat.add_assoc]
    exact ⟨_, rfl⟩

end Random.Source

namespace Machine

open Opcode (Matches MatchesOne)

/-! ## What a run executes -/

/-- The opcode that a call executes, if it is a step that does not fault. -/
def executed? (m : Machine) : Call → Option Nat
  | .step =>
    match fetch m, step m with
    | .ok opcode _, .ok _ _ => some opcode.toNat
    | _, _ => none
  | .load _ | .tick | .press _ | .release _ => none

/-- The opcodes that calls execute, in order. -/
def executed (m : Machine) : List Call → List Nat
  | [] => []
  | c :: calls => (m.executed? c).toList ++ (m.after c).executed calls

/-- How many of the opcodes that calls execute are of one of some patterns. -/
def executions (m : Machine) (patterns : List String) (calls : List Call) : Nat :=
  (m.executed calls).countP fun opcode => MatchesOne patterns opcode

/-- The call is a step that fetches an operation that takes a random byte. -/
def Rolls (m : Machine) (c : Call) : Prop :=
  c = .step ∧ m.Fetches randomPatterns

theorem executed?_eq_some_iff {m : Machine} {c : Call} {opcode : Nat} :
    m.executed? c = some opcode ↔
      c = .step ∧ fetch m = .ok opcode m ∧ ∃ advance m', step m = .ok advance m' := by
  cases c with
  | load rom | tick | press key | release key => simp [executed?]
  | step =>
    rw [executed?, fetch_apply]
    cases m.memory.readWord m.pc with
    | error fault => simp
    | ok word => cases step m <;> simp

theorem executions_append (m : Machine) (patterns : List String) (calls rest : List Call) :
    m.executions patterns (calls ++ rest) =
      m.executions patterns calls + (m.afterAll calls).executions patterns rest := by
  induction calls generalizing m with
  | nil => simp [executions, executed, afterAll]
  | cons c calls ih =>
    have ih := ih (m.after c)
    simp only [executions, executed, List.cons_append, List.countP_append, afterAll_cons] at ih ⊢
    omega

variable {m : Machine} {c : Call}

theorem executions_cons_of_quiet (quiet : ¬ m.Rolls c) (calls : List Call) :
    m.executions randomPatterns (c :: calls) =
      (m.after c).executions randomPatterns calls := by
  have uncounted : (m.executed? c).toList.countP (fun opcode => MatchesOne randomPatterns opcode) =
      0 := by
    refine List.countP_eq_zero.mpr fun opcode listed matched => quiet ?_
    obtain ⟨isStep, fetched, -⟩ := executed?_eq_some_iff.mp (Option.mem_toList.mp listed)
    exact ⟨isStep, opcode, fetched, of_decide_eq_true matched⟩
  rw [executions, executed, List.countP_append, uncounted, Nat.zero_add, executions]

theorem Rolls.exists_next (rolls : m.Rolls c) (endless : m.random.Endless) :
    ∃ (opcode : Nat) (b : UInt8) (random : Random.Source), c = .step ∧ fetch m = .ok opcode m ∧
      Matches "CXNN" opcode ∧ m.random.next? = some (b, random) ∧ random.Endless := by
  obtain ⟨isStep, opcode, fetched, pattern, listed, matched⟩ := rolls
  obtain rfl := List.mem_singleton.mp listed
  obtain ⟨b, random, next, endless'⟩ := next?_of_endless endless
  exact ⟨opcode, b, random, isStep, fetched, matched, next, endless'⟩

/-- The machine after an operation that has taken the byte `b` and left a source behind. -/
def rolled (m : Machine) (opcode : Nat) (b : UInt8) (random : Random.Source) : Machine :=
  advance { m.setRegister (Opcode.x opcode) (b &&& Opcode.nn opcode) with random } .next

/-- An operation that takes a random byte succeeds if there is one. -/
theorem step_of_rolls {opcode : Nat} {b : UInt8} {random : Random.Source}
    (fetched : fetch m = .ok opcode m) (matched : Matches "CXNN" opcode)
    (next : m.random.next? = some (b, random)) :
    step m = .ok .next (m.rolled opcode b random) := by
  have found : m.current = .ok (.random (Opcode.x opcode) (Opcode.nn opcode)) :=
    current_of_matches fetched matched rfl (by decide) rfl
  rw [step_eq, found]
  simp only [performAndAdvance_apply, perform, performRandom_apply, next]
  rfl

theorem executions_cons_of_rolls {advance : Advance} {m' : Machine} (rolls : m.Rolls .step)
    (stepped : step m = .ok advance m') (calls : List Call) :
    m.executions randomPatterns (.step :: calls) = m'.executions randomPatterns calls + 1 := by
  obtain ⟨-, opcode, fetched, matched⟩ := rolls
  have counted : m.executed? .step = some opcode :=
    executed?_eq_some_iff.mpr ⟨rfl, fetched, advance, m', stepped⟩
  rw [executions, executed, counted, after_step, stepped, Option.toList_some, List.singleton_append,
    List.countP_cons, if_pos (decide_eq_true matched), executions, left]

/-! ## What is taken from the source -/

/-- A call that does not execute such an operation cannot tell what the source is. -/
theorem blind_of_quiet (quiet : ¬ m.Rolls c) (onRandom : Random.Source → Random.Source) :
    m.Blind id id onRandom c where
  input _ := ⟨rfl, rfl⟩
  timers _ _ := rfl
  keys _ _ := rfl
  source isStep seen := absurd ⟨isStep, seen⟩ quiet

/-- Nothing but an operation that asks for a random byte takes one. -/
theorem random_after_of_quiet (quiet : ¬ m.Rolls c) : (m.after c).random = m.random := by
  -- To put the source in place behind the call comes to the same as in front of it.
  have kept := after_adjust (blind_of_quiet quiet fun _ => m.random)
  exact congrArg (·.random) kept

/-- Calls take as many bytes as they execute operations that ask for one. -/
theorem take?_executions (endless : m.random.Endless) (calls : List Call) :
    ∃ bytes, m.random.take? (m.executions randomPatterns calls) =
      some (bytes, (m.afterAll calls).random) := by
  induction calls generalizing m with
  | nil => exact ⟨[], rfl⟩
  | cons c calls ih =>
    rw [afterAll_cons]
    by_cases rolls : m.Rolls c
    · obtain ⟨opcode, b, random, rfl, fetched, matched, next, endless'⟩ := rolls.exists_next endless
      have stepped := step_of_rolls fetched matched next
      obtain ⟨bytes, taken⟩ := ih (m := m.rolled opcode b random) endless'
      rw [executions_cons_of_rolls rolls stepped, after_step, stepped, left,
        Random.Source.take?_succ next]
      exact ⟨_, congrArg _ taken⟩
    · rw [executions_cons_of_quiet rolls, ← random_after_of_quiet rolls]
      exact ih (by rwa [random_after_of_quiet rolls])

/-- The entry of a list that a run is to take next. -/
theorem next?_after {values : List Int} (nonempty : values ≠ []) (calls : List Call) :
    let new : Machine := { random := .ofList values }
    let k := new.executions randomPatterns calls
    ∃ v random, values[k % values.length]? = some v ∧
      (new.afterAll calls).random.next? = some (UInt8.ofNat (v % 256).toNat, random) := by
  intro new k
  have length : 0 < values.length := List.length_pos_iff.mpr nonempty
  have entry := List.getElem?_eq_getElem (Nat.mod_lt k length)
  obtain ⟨bytes, taken⟩ := take?_executions (m := new) (endless_ofList nonempty) calls
  -- The source has come to position `k` of the list.
  let low := (values.map fun v => UInt8.ofNat (v % 256).toNat).toArray
  have stored : 0 < low.size := by simpa [low] using length
  obtain ⟨bytes', replayed⟩ := Random.Source.take?_sequence stored 0 k
  obtain ⟨-, position⟩ := Prod.mk.inj (Option.some.inj (taken.symm.trans replayed))
  rw [position, Nat.zero_add]
  exact ⟨_, _, entry, Random.Source.next?_sequence (by simp [low, entry])⟩

/-- With another source that begins with the bytes that it takes, a run is the same. -/
theorem run_reseeded (endless : m.random.Endless) {source : Random.Source} {n : Nat}
    (same : source.bytes? n = m.random.bytes? n) {calls : List Call}
    (enough : m.executions randomPatterns calls ≤ n) :
    (∃ random, afterAll { m with random := source } calls = { m.afterAll calls with random }) ∧
      answers { m with random := source } calls = m.answers calls := by
  induction calls generalizing m source n with
  | nil => exact ⟨⟨source, rfl⟩, rfl⟩
  | cons c calls ih =>
    rw [afterAll_cons, afterAll_cons, answers, answers]
    by_cases rolls : m.Rolls c
    · obtain ⟨opcode, b, random, rfl, fetched, matched, next, endless'⟩ := rolls.exists_next endless
      have stepped := step_of_rolls fetched matched next
      rw [executions_cons_of_rolls rolls stepped] at enough
      obtain ⟨n, rfl⟩ := Nat.exists_eq_add_of_le' (Nat.le_of_add_left_le enough)
      obtain ⟨random', next', same'⟩ := Random.Source.next?_of_bytes? endless' next same
      have fetched' : fetch { m with random := source } = .ok opcode { m with random := source } :=
        fetch_eq_ok_iff.mpr (fetch_eq_ok_iff (m := m).mp fetched)
      have stepped' : step { m with random := source } = .ok .next (m.rolled opcode b random') :=
        step_of_rolls fetched' matched next'
      rw [after_step, after_step, exec_step, exec_step, stepped, stepped']
      obtain ⟨⟨last, left⟩, answered⟩ :=
        ih (m := m.rolled opcode b random) endless' same' (Nat.le_of_succ_le_succ enough)
      exact ⟨⟨last, left⟩, congrArg (_ :: ·) answered⟩
    · have blind := blind_of_quiet rolls fun _ => source
      rw [executions_cons_of_quiet rolls] at enough
      have kept := random_after_of_quiet rolls
      obtain ⟨left, answered⟩ := ih (kept ▸ endless) (kept ▸ same) enough
      have after' : after { m with random := source } c = { m.after c with random := source } :=
        after_adjust blind
      have answer' : answer (c.exec { m with random := source }) = answer (c.exec m) :=
        answer_adjust blind
      rw [after', answer', answered]
      exact ⟨left, rfl⟩

/-- A machine that takes its bytes from a list takes the entries of the list in order and over and
    over, one for each operation that asks for a random byte, and none for anything else. Where the
    bytes come from is of no matter: two runs with sources that begin with the same `n` bytes are
    the same as long as no more than `n` have been taken. -/
theorem random_bytes_in_order (values : List Int) (nonempty : values ≠ []) (calls : List Call) :
    let new : Machine := { random := .ofList values }
    let m := new.afterAll calls
    let k := new.executions randomPatterns calls
    (∃ bytes, new.random.take? k = some (bytes, m.random)) ∧
      (∀ opcode : Nat, fetch m = .ok opcode m → Matches "CXNN" opcode →
        ∃ v m', values[k % values.length]? = some v ∧ step m = .ok .next m' ∧
          m'.register (Opcode.x opcode) = UInt8.ofNat (v % 256).toNat &&& Opcode.nn opcode ∧
          new.executions randomPatterns (calls ++ [.step]) = k + 1) ∧
      (∀ c, ¬ m.Rolls c → (m.after c).random = m.random ∧
        new.executions randomPatterns (calls ++ [c]) = k) ∧
      ∀ (source source' : Random.Source) (n : Nat), source.Endless →
        source'.bytes? n = source.bytes? n →
        executions { random := source } randomPatterns calls ≤ n →
        (∃ random, afterAll { random := source' } calls =
            { afterAll { random := source } calls with random }) ∧
          answers { random := source' } calls = answers { random := source } calls := by
  intro new m k
  have endless : new.random.Endless := endless_ofList nonempty
  refine ⟨take?_executions endless calls, fun opcode fetched matched => ?_, fun c quiet => ?_,
    fun source source' n endless same enough => ?_⟩
  · obtain ⟨v, random, entry, next⟩ := next?_after nonempty calls
    have stepped := step_of_rolls fetched matched next
    have rolls : m.Rolls .step := ⟨rfl, opcode, fetched, _, List.mem_singleton_self _, matched⟩
    rw [executions_append, executions_cons_of_rolls rolls stepped]
    exact ⟨v, _, entry, stepped, register_setRegister_self m _ _, rfl⟩
  · rw [executions_append, executions_cons_of_quiet quiet]
    exact ⟨random_after_of_quiet quiet, rfl⟩
  · exact run_reseeded (m := { random := source }) endless same enough

/-- The first of two bytes has been taken, and a tick and a key event have come in between. -/
theorem random_bytes_in_order_twice :
    let rom : List UInt8 := [0xC1, 0xF0, 0xC2, 0x0F]
    let new : Machine := { random := .ofList [-1, 300] }
    let calls : List Call := [.load rom, .step, .tick, .press 3]
    let m := new.afterAll calls
    ([-1, 300] : List Int) ≠ [] ∧ new.executions randomPatterns calls = 1 ∧
      fetch m = .ok 0xC20F m ∧ Matches "CXNN" 0xC20F ∧
      (∃ m', step m = .ok .next m' ∧ m'.register 2 = 12) ∧
      ¬ m.Rolls .tick ∧ (m.after .tick).random = m.random ∧
      Random.Source.Endless (.ofList [-1, 300]) ∧
      Random.Source.bytes? (.ofList [255, 7]) 1 = Random.Source.bytes? (.ofList [-1, 300]) 1 ∧
      answers { random := .ofList [255, 7] } calls = new.answers calls := by
  intro rom new calls m
  obtain ⟨memory, loaded, -, -⟩ := Memory.exists_loaded rom (by decide)
  let m₁ : Machine := { new with memory }
  have reads : memory.readWord (0x200 : Nat) = .ok (Instruction.word (.random 1 0xF0)) :=
    Memory.readWord_of_load loaded 0 rfl rfl rfl
  have reads' : memory.readWord (0x202 : Nat) = .ok (Instruction.word (.random 2 0x0F)) :=
    Memory.readWord_of_load loaded 2 rfl rfl rfl
  have first : new.after (.load rom) = m₁ := by
    rw [after, exec_load, show new.memory.load rom = _ from loaded]
    rfl
  have rolls : m₁.Rolls .step :=
    ⟨rfl, 0xC1F0, fetch_eq_ok_iff.mpr reads, "CXNN", by decide, by decide⟩
  let m₂ : Machine := m₁.rolled 0xC1F0 255 (.sequence #[255, 44] 1)
  have second : step m₁ = .ok .next m₂ :=
    step_of_rolls (fetch_eq_ok_iff.mpr reads) (by decide) rfl
  have quiet : ¬ new.Rolls (.load rom) := by simp [Rolls]
  have counted : new.executions randomPatterns calls = 1 := by
    rw [executions_cons_of_quiet quiet, first, executions_cons_of_rolls rolls second]
    rfl
  have behind : m = m₂.tick.press 3 := by
    have run : m = (new.after (.load rom)).afterAll [.step, .tick, .press 3] :=
      new.afterAll_cons (.load rom) [.step, .tick, .press 3]
    rw [run, first, afterAll_cons, after_step, second]
    rfl
  have fetched : fetch m = .ok 0xC20F m := by
    rw [behind]
    exact fetch_eq_ok_iff.mpr reads'
  have matched : Matches "CXNN" 0xC20F := by decide
  have quiet' : ¬ m.Rolls .tick := by simp [Rolls]
  have endless : Random.Source.Endless (.ofList [-1, 300]) := endless_ofList (by decide)
  have agree : Random.Source.bytes? (.ofList [255, 7]) 1 =
      Random.Source.bytes? (.ofList [-1, 300]) 1 := rfl
  have nonempty : ([-1, 300] : List Int) ≠ [] := by decide
  obtain ⟨-, roll, still, same⟩ := random_bytes_in_order [-1, 300] nonempty calls
  obtain ⟨v, m', entry, stepped, result, -⟩ := roll 0xC20F fetched matched
  rw [counted] at entry
  obtain rfl : 300 = v := Option.some.inj entry
  exact ⟨nonempty, counted, fetched, matched, ⟨m', stepped, result⟩, quiet', (still _ quiet').1,
    endless, agree, (same _ _ 1 endless agree counted.le).2⟩

end Machine

end ChipEight
