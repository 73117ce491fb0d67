import ChipEight.Proofs.Machine.Countdown
import ChipEight.Proofs.Machine.Keys

/-!
# Waiting for a key

The instruction that asks for a key is repeated for as long as none is pressed. All that comes of it
is that time passes (`Waits.runFrames`), and what was pressed and released in the meantime is
found as it was left: the instruction takes the lowest key whose last event was a press, and it does
not use it up (`waits_for_key`).
-/

namespace ChipEight

theorem Timers.iterate_tick {t : Timers} (delay : 0 ≤ t.delay) (sound : 0 ≤ t.sound) (n : Nat) :
    tick^[n] t = ⟨max 0 (t.delay - n), max 0 (t.sound - n)⟩ := by
  rw [← iterate_countDown delay, ← iterate_countDown sound]
  clear delay sound
  induction n generalizing t with
  | zero => rfl
  | succ n ih => exact ih

namespace Machine

open Opcode (Matches)

/-- The next instruction asks for a key, and no key is pressed. -/
structure Waits (m : Machine) (opcode : Nat) : Prop where
  size : (m.memory.size : Int) = 0x1000
  fetched : fetch m = .ok opcode m
  asks : Matches "FX0A" opcode
  idle : m.keypad.Idle

theorem fetch_congr {m m' : Machine} {opcode : Nat} (memory : m'.memory = m.memory)
    (pc : m'.pc = m.pc) (fetched : fetch m = .ok opcode m) : fetch m' = .ok opcode m' := by
  rw [fetch_eq_ok_iff] at fetched ⊢
  rw [memory, pc, fetched]

/-- A machine that has been given a key, and goes on behind the instruction that asked for it. -/
def given (m : Machine) (x : Register) (key : Key) : Machine :=
  { m.setRegister x (UInt8.ofNat key) with pc := m.pc + 2 }

/-- A machine that asks for a key is given the lowest one that is pressed, or asks again. -/
theorem step_of_asks {m : Machine} {opcode : Nat} (size : (m.memory.size : Int) = 0x1000)
    (fetched : fetch m = .ok opcode m) (asks : Matches "FX0A" opcode) :
    step m =
      match m.keypad.firstPressed? with
      | none => .ok .again m
      | some key => .ok .next (m.given (Opcode.x opcode) key) := by
  have found : m.current = .ok (.waitKey (Opcode.x opcode)) :=
    current_of_matches fetched asks rfl (by decide) rfl
  obtain ⟨low, inside⟩ := pc_of_current found
  rw [step_eq, found]
  simp only [performAndAdvance_apply, perform, performWaitKey_apply]
  cases m.keypad.firstPressed? with
  | none => rfl
  | some key =>
    have onward : (m.pc + 2) % 0x10000 = m.pc + 2 := by omega
    exact congrArg (fun pc => EStateM.Result.ok _ { m.setRegister _ _ with pc }) onward

theorem register_given (m : Machine) (x : Register) (key : Key) :
    ((m.given x key).register x).toNat = key := by
  change ((m.setRegister x (UInt8.ofNat key)).register x).toNat = key
  have small := key.isLt
  rw [register_setRegister_self, UInt8.toNat_ofNat']
  omega

/-! ## While no key is pressed -/

section

variable {m : Machine} {opcode : Nat}

theorem Waits.step (h : m.Waits opcode) : Machine.step m = .ok .again m := by
  have nothing := m.keypad.firstPressed?_isNone_iff.mpr h.idle
  rw [step_of_asks h.size h.fetched h.asks, Option.isNone_iff_eq_none.mp nothing]

theorem Waits.tick (h : m.Waits opcode) : m.tick.Waits opcode :=
  ⟨h.size, fetch_congr (m := m) rfl rfl h.fetched, h.asks, h.idle⟩

theorem Waits.steps (h : m.Waits opcode) (n : Nat) : Machine.steps n m = .ok () m := by
  induction n with
  | zero => rfl
  | succ n ih =>
    rw [steps_succ_apply, h.step]
    exact ih

theorem Waits.runFrame (h : m.Waits opcode) (cycles : Int) :
    Machine.runFrame cycles m = .ok () m.tick := by
  rw [runFrame_apply, h.steps]

/-- All that comes of waiting is that time passes. -/
theorem Waits.runFrames (h : m.Waits opcode) (frames : Nat) (cycles : Int) :
    Machine.runFrames frames cycles m =
      .ok () { m with timers := Timers.tick^[frames] m.timers } := by
  induction frames generalizing m with
  | zero => rfl
  | succ frames ih =>
    rw [runFrames_succ_apply, h.runFrame]
    exact ih h.tick

end

/-! ## Once a key is pressed -/

/-- While a machine waits for a key, frames change nothing but its timers. Then it depends on the
    last event of each key whether it goes on waiting. If there is a key whose last event was a press,
    it is given the lowest such key, and the key is not used up: if it asks for a key again, it is
    given the same one. -/
theorem waits_for_key {m : Machine} (h : m.Invariant) {opcode : Nat}
    (fetched : fetch m = .ok opcode m) (asks : Matches "FX0A" opcode) (idle : m.keypad.Idle)
    (frames : Nat) (cycles : Int) :
    let m₁ : Machine :=
      { m with timers := ⟨max 0 (m.timers.delay - frames), max 0 (m.timers.sound - frames)⟩ }
    runFrames frames cycles m = .ok () m₁ ∧
      ∀ events : List Call, (∀ c ∈ events, c.key?.isSome) →
        let m₂ := m₁.afterAll events
        ((∀ key, lastFlag? key events ≠ some true) → step m₂ = .ok .again m₂) ∧
          ((∃ key, lastFlag? key events = some true) →
            ∃ key, LowestPressed events key ∧
              let m₃ := m₂.given (Opcode.x opcode) key
              step m₂ = .ok .next m₃ ∧ (m₃.register (Opcode.x opcode)).toNat = key ∧
                m₃.keypad = m₂.keypad ∧
                ∀ opcode' : Nat, fetch m₃ = .ok opcode' m₃ → Matches "FX0A" opcode' →
                  step m₃ = .ok .next (m₃.given (Opcode.x opcode') key)) := by
  intro m₁
  have waits : m.Waits opcode := ⟨h.memory_size, fetched, asks, idle⟩
  have waited : runFrames frames cycles m = .ok () m₁ := by
    rw [waits.runFrames frames cycles, Timers.iterate_tick h.delay.1 h.sound.1]
  refine ⟨waited, fun events keys => ?_⟩
  obtain ⟨keypad, left⟩ := m₁.afterAll_of_keyEvents keys
  have size : ((m₁.afterAll events).memory.size : Int) = 0x1000 := by
    rw [left]
    exact h.memory_size
  have fetched₂ : fetch (m₁.afterAll events) = .ok opcode (m₁.afterAll events) :=
    fetch_congr (m := m) (by rw [left]) (by rw [left]) fetched
  constructor
  · intro released
    have still := (idle_afterAll_iff (m := m₁) idle events).mpr released
    exact Waits.step ⟨size, fetched₂, asks, still⟩
  · intro pressed
    obtain ⟨key, found, lowest⟩ := firstPressed?_afterAll (m := m₁) idle pressed
    refine ⟨key, lowest, ?_, register_given _ _ key, rfl, fun opcode' fetched' asks' => ?_⟩
    · rw [step_of_asks size fetched₂ asks, found]
    · -- The keypad is as it was, so the same key is found.
      have kept : (given (m₁.afterAll events) (Opcode.x opcode) key).keypad.firstPressed? =
          some key := found
      rw [step_of_asks (m := given _ _ key) size fetched' asks', kept]

/-- Key 9 is pressed before key 7, and key 3, which comes before both, is released in time. -/
theorem waits_for_key_lowest :
    ∃ memory, Memory.ofSize.load [0xF4, 0x0A, 0xF5, 0x0A] = .ok memory ∧
      let m : Machine := { random := .ofList [1], memory, timers := ⟨5, 1⟩ }
      let m₁ : Machine := { m with timers := ⟨3, 0⟩ }
      let idle := m₁.afterAll [.press 3, .release 3]
      let events : List Call := [.press 3, .press 9, .press 7, .release 3]
      let m₂ := m₁.afterAll events
      let m₃ := m₂.given 4 7
      m.Invariant ∧ fetch m = .ok 0xF40A m ∧ Matches "FX0A" 0xF40A ∧ m.keypad.Idle ∧
        runFrames 2 3 m = .ok () m₁ ∧ step idle = .ok .again idle ∧ step m₂ = .ok .next m₃ ∧
        step m₃ = .ok .next (m₃.given 5 7) := by
  obtain ⟨memory, loaded, size, -⟩ := Memory.exists_loaded [0xF4, 0x0A, 0xF5, 0x0A] (by simp)
  refine ⟨memory, loaded, ?_⟩
  intro m m₁ idle events m₂ m₃
  have new : Invariant { random := .ofList [1] } := invariant_new (Nat.succ_pos 0)
  have h : m.Invariant :=
    ⟨new.index, new.pc, new.slots, by simp [m], by simp [m], size, new.random⟩
  have first : memory.readWord (0x200 : Nat) = .ok 0xF40A :=
    Memory.readWord_of_load loaded 0 rfl rfl rfl
  have second : memory.readWord (0x202 : Nat) = .ok 0xF50A :=
    Memory.readWord_of_load loaded 2 rfl rfl rfl
  have fetched : fetch m = .ok 0xF40A m := fetch_eq_ok_iff.mpr first
  have fetched₃ : fetch m₃ = .ok 0xF50A m₃ := fetch_eq_ok_iff.mpr second
  have asks : Matches "FX0A" 0xF40A := by decide
  have asks₃ : Matches "FX0A" 0xF50A := by decide
  have free : m.keypad.Idle := by
    change Keypad.Idle {}
    decide
  have released : ∀ key, lastFlag? key [.press 3, .release 3] ≠ some true := by decide
  have lowest : LowestPressed events 7 := ⟨by decide, by decide⟩
  obtain ⟨waited, goesOn⟩ := waits_for_key h fetched asks free 2 3
  obtain ⟨waits, -⟩ := goesOn [.press 3, .release 3] (by decide)
  obtain ⟨-, takes⟩ := goesOn events (by decide)
  obtain ⟨key, isLowest, given, -, -, again⟩ := takes ⟨7, lowest.1⟩
  obtain rfl := isLowest.unique lowest
  exact ⟨h, fetched, asks, free, waited, waits released, given, again 0xF50A fetched₃ asks₃⟩

end Machine

end ChipEight
