import ChipEight.Proofs.Machine.Atomicity
import ChipEight.Proofs.Machine.Fetching
import ChipEight.Proofs.Machine.Parts

/-!
# The timers through a run

A timer is what it was last set to, less the ticks since then. `LastSet` finds both in the calls of
a run, and `timers_follow` says that the timer of a machine is their difference, or zero. Nothing else
that a driver or a program does moves a timer (`get_after_of_quiet`): as long as it is not set it
only counts down (`get_afterAll_of_quiet`).
-/

namespace ChipEight

/-- The two timers by name. -/
inductive Timer
  | delay
  | sound
  deriving DecidableEq, Repr

/-- The value of a timer. -/
def Timers.get (t : Timers) : Timer → Int
  | .delay => t.delay
  | .sound => t.sound

/-- The operation that sets a timer. -/
def Timer.setter : Timer → String
  | .delay => "FX15"
  | .sound => "FX18"

theorem Timers.iterate_countDown {value : Int} (low : 0 ≤ value) (n : Nat) :
    countDown^[n] value = max 0 (value - n) := by
  induction n generalizing value with
  | zero => simp [low]
  | succ n ih =>
    rw [Function.iterate_succ_apply, countDown_of_nonneg low, ih (Int.le_max_left _ _)]
    omega

theorem Timers.get_tick (t : Timers) (timer : Timer) :
    t.tick.get timer = countDown (t.get timer) := by
  cases timer <;> rfl

namespace Machine

open Opcode (Matches)

/-- The next step sets a timer to a value, which is in the register that its opcode names. -/
def Sets (m : Machine) (timer : Timer) (value : UInt8) : Prop :=
  ∃ (opcode : Nat) (advance : Advance) (m' : Machine), fetch m = .ok opcode m ∧
    Matches timer.setter opcode ∧ step m = .ok advance m' ∧ m.register (Opcode.x opcode) = value

/-- Among calls from a machine on, the last step that sets a timer sets it to a value, and a number
    of ticks come after it. If no step sets it, that value is 0 and all ticks count. -/
inductive LastSet (timer : Timer) (m : Machine) : List Call → UInt8 → Nat → Prop
  | never {calls : List Call} (quiet : m.Avoids [timer.setter] calls) :
      LastSet timer m calls 0 (calls.count .tick)
  | set (before : List Call) {calls : List Call} {value : UInt8}
      (sets : (m.afterAll before).Sets timer value)
      (quiet : ((m.afterAll before).after .step).Avoids [timer.setter] calls) :
      LastSet timer m (before ++ .step :: calls) value (calls.count .tick)

/-! ## Steps -/

/-- An operation that sets a timer does not fail. -/
theorem step_of_setter {m : Machine} {timer : Timer} {opcode : Nat}
    (fetched : fetch m = .ok opcode m) (matched : Matches timer.setter opcode) :
    ∃ m', step m = .ok .next m' ∧
      m'.timers.get timer = (m.register (Opcode.x opcode)).toNat := by
  cases timer with
  | delay =>
    have found : m.current = .ok (.setDelay (Opcode.x opcode)) :=
      current_of_matches fetched matched rfl (by decide) rfl
    rw [step_eq, found]
    exact ⟨_, rfl, rfl⟩
  | sound =>
    have found : m.current = .ok (.setSound (Opcode.x opcode)) :=
      current_of_matches fetched matched rfl (by decide) rfl
    rw [step_eq, found]
    exact ⟨_, rfl, rfl⟩

theorem sets_of_fetches {m : Machine} {timer : Timer} (h : m.Fetches [timer.setter]) :
    ∃ value, m.Sets timer value := by
  obtain ⟨opcode, fetched, pattern, listed, matched⟩ := h
  obtain rfl := List.mem_singleton.mp listed
  obtain ⟨m', stepped, -⟩ := step_of_setter fetched matched
  exact ⟨_, opcode, .next, m', fetched, matched, stepped, rfl⟩

theorem Sets.get_after {m : Machine} {timer : Timer} {value : UInt8} (h : m.Sets timer value) :
    (m.after .step).timers.get timer = value.toNat := by
  obtain ⟨opcode, -, -, fetched, matched, -, rfl⟩ := h
  obtain ⟨m', stepped, set⟩ := step_of_setter fetched matched
  rw [after_step, stepped]
  exact set

/-- Only an operation that sets a timer changes it. -/
theorem get_of_step {m m' : Machine} {timer : Timer} {advance : Advance}
    (stepped : step m = .ok advance m') (quiet : ¬ m.Fetches [timer.setter]) :
    m'.timers.get timer = m.timers.get timer := by
  have unset (opcode : Nat) (fetched : fetch m = .ok opcode m) : ¬ Matches timer.setter opcode :=
    fun matched => quiet ⟨opcode, fetched, _, List.mem_singleton.mpr rfl, matched⟩
  cases timer with
  | delay =>
    have same : Part.Same m m' .delay :=
      same_of_step stepped fun ⟨opcode, fetched, sets⟩ => unset opcode fetched sets
    exact same
  | sound =>
    have same : Part.Same m m' .sound :=
      same_of_step stepped fun ⟨opcode, fetched, sets⟩ => unset opcode fetched sets
    exact same

/-- The delay timer is read as it is, for it fits a register. -/
theorem step_of_reader {m : Machine} {opcode : Nat} (fetched : fetch m = .ok opcode m)
    (matched : Matches "FX07" opcode)
    (fits : 0 ≤ m.timers.get .delay ∧ m.timers.get .delay ≤ 0xFF) :
    ∃ m', step m = .ok .next m' ∧
      (m'.register (Opcode.x opcode)).toNat = m.timers.get .delay := by
  have found : m.current = .ok (.readDelay (Opcode.x opcode)) :=
    current_of_matches fetched matched rfl (by decide) rfl
  rw [step_eq, found]
  refine ⟨_, rfl, ?_⟩
  change ((register (m.setRegister _ _) _).toNat : Int) = m.timers.delay
  rw [register_setRegister_self, UInt8.toNat_ofNat']
  simp only [Timers.get] at fits
  omega

/-! ## Calls -/

/-- No call moves a timer but a tick and a step that sets it. -/
theorem get_after_of_quiet (m : Machine) {timer : Timer} {c : Call} (noTick : c ≠ .tick)
    (quiet : c = .step → ¬ m.Fetches [timer.setter]) :
    (m.after c).timers.get timer = m.timers.get timer := by
  cases c with
  | tick => exact absurd rfl noTick
  | load rom =>
    rw [after, exec_load]
    cases m.memory.load rom <;> rfl
  | press key | release key => rfl
  | step =>
    rw [after_step]
    cases stepped : step m with
    | error fault m' =>
      obtain ⟨rfl, -⟩ := step_eq_error stepped
      rfl
    | ok advance m' => exact get_of_step stepped (quiet rfl)

/-- As long as a timer is not set, it counts down with the ticks. -/
theorem get_afterAll_of_quiet {m : Machine} {timer : Timer} {calls : List Call}
    (low : 0 ≤ m.timers.get timer) (quiet : m.Avoids [timer.setter] calls) :
    (m.afterAll calls).timers.get timer = max 0 (m.timers.get timer - calls.count .tick) := by
  rw [← Timers.iterate_countDown low]
  induction calls generalizing m with
  | nil => rfl
  | cons c calls ih =>
    obtain ⟨unset, quiet⟩ := quiet
    by_cases tick : c = .tick
    · obtain rfl := tick
      have ticked : (m.after .tick).timers.get timer = Timers.countDown (m.timers.get timer) :=
        m.timers.get_tick timer
      have low' : 0 ≤ (m.after .tick).timers.get timer := by
        rw [ticked, Timers.countDown_of_nonneg low]
        exact Int.le_max_left _ _
      rw [afterAll_cons, ih low' quiet, List.count_cons_self, Function.iterate_succ_apply, ticked]
    · have kept := get_after_of_quiet m tick unset
      rw [afterAll_cons, ih (kept ▸ low) quiet, kept, List.count_cons_of_ne tick]

/-! ## Histories -/

theorem exists_lastSet (m : Machine) (timer : Timer) (calls : List Call) :
    ∃ value ticks, LastSet timer m calls value ticks := by
  induction calls generalizing m with
  | nil => exact ⟨0, _, .never trivial⟩
  | cons c calls ih =>
    -- The first call counts only if no later one sets the timer.
    obtain ⟨value, ticks, later⟩ := ih (m.after c)
    cases later with
    | set before sets quiet => exact ⟨value, _, .set (c :: before) sets quiet⟩
    | never quiet =>
      by_cases now : c = .step ∧ m.Fetches [timer.setter]
      · obtain ⟨rfl, setting⟩ := now
        obtain ⟨value, sets⟩ := sets_of_fetches setting
        exact ⟨value, _, .set [] sets quiet⟩
      · exact ⟨0, _, .never ⟨fun isStep setting => now ⟨isStep, setting⟩, quiet⟩⟩

/-- A timer that begins at zero is what it was last set to, less the ticks since then. -/
theorem LastSet.get_afterAll {timer : Timer} {m : Machine} {calls : List Call} {value : UInt8}
    {ticks : Nat} (h : LastSet timer m calls value ticks) (zero : m.timers.get timer = 0) :
    (m.afterAll calls).timers.get timer = max 0 ((value.toNat : Int) - ticks) := by
  cases h with
  | never quiet =>
    rw [get_afterAll_of_quiet (Int.le_of_eq zero.symm) quiet, zero]
    rfl
  | set before sets quiet =>
    have was := sets.get_after
    have low : 0 ≤ ((m.afterAll before).after .step).timers.get timer :=
      was ▸ Int.natCast_nonneg value.toNat
    rw [afterAll_append, afterAll_cons, get_afterAll_of_quiet low quiet, was]

theorem count_tick_frames (frames : Nat) (cycles : Int) :
    (List.replicate frames (frame cycles)).flatten.count Call.tick = frames := by
  simp [List.count_flatten, frame, List.count_replicate]

/-- In a run from a new machine each of the timers is the value that it was last set to, less the
    ticks since then, and not below zero. An operation that reads the delay finds this value, and the
    sound is on as long as its timer is above zero. A call that is no tick and does not set a timer
    leaves it as it is, whatever becomes of the other one, and frames that do not set it take it down
    by their number. -/
theorem timers_follow (source : Random.Source) (calls : List Call) :
    let new : Machine := { random := source }
    let m := new.afterAll calls
    (∀ timer, (∃ value ticks, LastSet timer new calls value ticks) ∧
        ∀ value ticks, LastSet timer new calls value ticks →
          m.timers.get timer = max 0 ((value.toNat : Int) - ticks)) ∧
      (∀ opcode : Nat, fetch m = .ok opcode m → Matches "FX07" opcode →
        ∃ m', step m = .ok .next m' ∧
          (m'.register (Opcode.x opcode)).toNat = m.timers.get .delay) ∧
      (m.timers.soundActive ↔ 0 < m.timers.get .sound) ∧
      (∀ timer c, c ≠ .tick → (c = .step → ¬ m.Fetches [timer.setter]) →
        (m.after c).timers.get timer = m.timers.get timer) ∧
      ∀ timer (frames : Nat) (cycles : Int) m',
        m.Avoids [timer.setter] (List.replicate frames (frame cycles)).flatten →
          runFrames frames cycles m = .ok () m' →
            m'.timers.get timer = max 0 (m.timers.get timer - frames) := by
  intro new m
  have law (timer : Timer) {value : UInt8} {ticks : Nat}
      (last : LastSet timer new calls value ticks) :
      m.timers.get timer = max 0 ((value.toNat : Int) - ticks) :=
    last.get_afterAll (by cases timer <;> rfl)
  have bounds (timer : Timer) : 0 ≤ m.timers.get timer ∧ m.timers.get timer ≤ 0xFF := by
    obtain ⟨value, ticks, last⟩ := exists_lastSet new timer calls
    have small := value.toNat_lt
    rw [law timer last]
    omega
  refine ⟨fun timer => ⟨exists_lastSet new timer calls, fun _ _ => law timer⟩,
    fun _ fetched matched => step_of_reader fetched matched (bounds .delay), decide_eq_true_iff,
    fun _ _ noTick quiet => get_after_of_quiet m noTick quiet, ?_⟩
  intro timer frames cycles m' quiet ran
  rw [← afterAll_of_completes (completes_of_runFrames ran),
    get_afterAll_of_quiet (bounds timer).1 quiet, count_tick_frames]

/-- The delay timer is set to 5, and two ticks later it is read: 3 are left of it. -/
theorem timers_follow_delay :
    let rom : List UInt8 := [0x61, 0x05, 0xF1, 0x15, 0xF2, 0x07]
    let new : Machine := { random := .ofList [1] }
    let calls : List Call := [.load rom, .step, .step, .tick, .press 3, .tick]
    let m := new.afterAll calls
    LastSet .delay new calls 5 2 ∧ m.timers.get .delay = 3 ∧
      fetch m = .ok 0xF207 m ∧ Matches "FX07" 0xF207 ∧
      (∃ m', step m = .ok .next m' ∧ (m'.register 2).toNat = (3 : Int)) ∧
      ¬ m.Fetches [Timer.sound.setter] ∧ (m.after .step).timers.get .sound = m.timers.get .sound ∧
      ∃ m', m.Avoids [Timer.delay.setter] (List.replicate 2 (frame 0)).flatten ∧
        runFrames 2 0 m = .ok () m' ∧ m'.timers.get .delay = 1 := by
  intro rom new calls m
  obtain ⟨memory, loaded, -, -⟩ := Memory.exists_loaded rom (by decide)
  let m₁ : Machine := { new with memory }
  let m₂ : Machine := { m₁.setRegister 1 5 with pc := (0x202 : Nat) }
  let m₃ : Machine := { m₂ with timers := ⟨5, 0⟩, pc := (0x204 : Nat) }
  have loads : memory.readWord (0x200 : Nat) = .ok (Instruction.word (.load 1 5)) :=
    Memory.readWord_of_load loaded 0 rfl rfl rfl
  have sets : memory.readWord (0x202 : Nat) = .ok (Instruction.word (.setDelay 1)) :=
    Memory.readWord_of_load loaded 2 rfl rfl rfl
  have reads : memory.readWord (0x204 : Nat) = .ok (Instruction.word (.readDelay 2)) :=
    Memory.readWord_of_load loaded 4 rfl rfl rfl
  have first : new.after (.load rom) = m₁ := by
    rw [after, exec_load, show new.memory.load rom = _ from loaded]
    rfl
  have second : step m₁ = .ok .next m₂ := by
    rw [step_word (m := m₁) (i := .load 1 5) id loads]
    rfl
  have third : step m₂ = .ok .next m₃ := by
    rw [step_word (m := m₂) (i := .setDelay 1) id sets]
    rfl
  have before : new.afterAll [.load rom, .step] = m₂ := by
    rw [afterAll_cons, first, afterAll_cons, after_step, second]
    rfl
  let m₄ : Machine := { m₃ with timers := ⟨3, 0⟩, keypad := m₃.keypad.press 3 }
  have behind : m = m₄ := by
    have split := new.afterAll_append [.load rom, .step] [.step, .tick, .press 3, .tick]
    rw [before, afterAll_cons, after_step, third] at split
    exact split
  have last : LastSet .delay new calls 5 2 := by
    have setting : (new.afterAll [.load rom, .step]).Sets .delay 5 := by
      rw [before]
      exact ⟨0xF115, .next, m₃, fetch_eq_ok_iff.mpr sets, by decide, third,
        register_setRegister_self m₁ 1 5⟩
    exact .set [.load rom, .step] setting (avoids_of_no_step (by decide))
  have fetched : fetch m = .ok 0xF207 m := by
    rw [behind]
    exact fetch_eq_ok_iff.mpr reads
  have noSound : ¬ m.Fetches [Timer.sound.setter] := by
    rw [behind]
    exact not_fetches (m := m₄) reads (by decide)
  have matched : Matches "FX07" 0xF207 := by decide
  have ran (m : Machine) : runFrames 2 0 m = .ok () m.tick.tick := rfl
  have quiet : m.Avoids [Timer.delay.setter] (List.replicate 2 (frame 0)).flatten :=
    avoids_of_no_step (by decide)
  obtain ⟨law, read, -, still, frames⟩ := timers_follow (.ofList [1]) calls
  have delay : m.timers.get .delay = 3 := (law .delay).2 5 2 last
  obtain ⟨m', stepped, stored⟩ := read 0xF207 fetched matched
  exact ⟨last, delay, fetched, matched, ⟨m', stepped, stored.trans delay⟩, noSound,
    still .sound .step (by decide) fun _ => noSound, _, quiet, ran m,
    (frames .delay 2 0 _ quiet (ran m)).trans (by rw [delay]; rfl)⟩

end Machine

end ChipEight
