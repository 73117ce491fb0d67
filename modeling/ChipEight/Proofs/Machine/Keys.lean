import ChipEight.Proofs.Machine.Flow
import ChipEight.Proofs.Machine.Parts

/-!
# The keys through a run

A driver presses and releases keys, and nothing else does. So a key is as its last event left it
(`key_afterAll`), whatever became of the other keys in between. A program that asks for a key gets
the lowest of those that are pressed.
-/

namespace ChipEight

theorem Keypad.firstPressed?_eq_some_iff (p : Keypad) (key : Key) :
    p.firstPressed? = some key ↔
      p.keys.get key = true ∧ ∀ lower < key, p.keys.get lower = false := by
  rw [firstPressed?, List.find?_eq_some_iff_getElem]
  constructor
  · rintro ⟨pressed, i, inside, found, before⟩
    obtain rfl := (List.getElem_finRange _).symm.trans found
    exact ⟨pressed, fun lower below => by
      simpa [Vector.get_eq_getElem] using before lower.val below⟩
  · rintro ⟨pressed, below⟩
    exact ⟨pressed, key.val, by simp, by simp, fun j early => by
      simpa [Vector.get_eq_getElem] using below ⟨j, by omega⟩ early⟩

namespace Machine

/-- Whether a key is pressed after a call, if the call is an event of the key. -/
def Call.flag? (key : Key) : Call → Option Bool
  | .press other => if other = key then some true else none
  | .release other => if other = key then some false else none
  | .load _ | .step | .tick => none

/-- Whether a key is pressed after its last event among calls, if there is one. -/
def lastFlag? (key : Key) (calls : List Call) : Option Bool :=
  (calls.filterMap (Call.flag? key)).getLast?

theorem lastFlag?_cons (key : Key) (c : Call) (calls : List Call) :
    lastFlag? key (c :: calls) = (lastFlag? key calls).or (c.flag? key) := by
  cases first : c.flag? key with
  | none => simp [lastFlag?, first]
  | some flag => simp [lastFlag?, first, List.getLast?_cons]

theorem key_after (m : Machine) (c : Call) (key : Key) :
    (m.after c).keypad.keys.get key = (c.flag? key).getD (m.keypad.keys.get key) := by
  cases c with
  | load rom =>
    rw [after, exec_load]
    cases m.memory.load rom <;> rfl
  | step =>
    rw [after_step]
    cases stepped : step m with
    | error fault m' =>
      obtain ⟨rfl, -⟩ := step_eq_error stepped
      rfl
    | ok advance m' =>
      have closed : ¬ Call.MayChange m .step (.key key) := by
        rintro ⟨opcode, -, may⟩
        exact may
      exact same_of_step stepped closed
  | tick => rfl
  | press other =>
    refine (m.keypad.getElem_press other key).trans ?_
    by_cases same : other = key <;> simp [Call.flag?, same, Vector.get_eq_getElem]
  | release other =>
    refine (m.keypad.getElem_release other key).trans ?_
    by_cases same : other = key <;> simp [Call.flag?, same, Vector.get_eq_getElem]

/-- A key is as its last event left it. -/
theorem key_afterAll (m : Machine) (calls : List Call) (key : Key) :
    (m.afterAll calls).keypad.keys.get key =
      (lastFlag? key calls).getD (m.keypad.keys.get key) := by
  induction calls generalizing m with
  | nil => rfl
  | cons c calls ih =>
    rw [afterAll_cons, ih, key_after, lastFlag?_cons]
    cases lastFlag? key calls <;> rfl

/-- A key is the lowest of those whose last event among calls was a press. -/
def LowestPressed (events : List Call) (key : Key) : Prop :=
  lastFlag? key events = some true ∧ ∀ lower < key, lastFlag? lower events ≠ some true

/-- From a keypad on which no key is pressed, a key is pressed if its last event was a press. -/
theorem pressed_afterAll_iff {m : Machine} (idle : m.keypad.Idle) (events : List Call) (key : Key) :
    (m.afterAll events).keypad.keys.get key = true ↔ lastFlag? key events = some true := by
  rw [key_afterAll, idle key]
  cases lastFlag? key events <;> simp

theorem idle_afterAll_iff {m : Machine} (idle : m.keypad.Idle) (events : List Call) :
    (m.afterAll events).keypad.Idle ↔ ∀ key, lastFlag? key events ≠ some true := by
  unfold Keypad.Idle
  simp only [← Bool.not_eq_true, pressed_afterAll_iff idle events, ne_eq]

theorem LowestPressed.unique {events : List Call} {key other : Key} (h : LowestPressed events key)
    (h' : LowestPressed events other) : key = other :=
  Fin.le_antisymm (Fin.not_lt.mp fun below => h.2 other below h'.1)
    (Fin.not_lt.mp fun below => h'.2 key below h.1)

/-- When some keys are left pressed, the lowest of them is found. -/
theorem firstPressed?_afterAll {m : Machine} (idle : m.keypad.Idle) {events : List Call}
    (pressed : ∃ key, lastFlag? key events = some true) :
    ∃ key, (m.afterAll events).keypad.firstPressed? = some key ∧ LowestPressed events key := by
  cases found : (m.afterAll events).keypad.firstPressed? with
  | none =>
    have none : (m.afterAll events).keypad.Idle := by
      simp [← Keypad.firstPressed?_isNone_iff, found]
    obtain ⟨key, pressed⟩ := pressed
    exact absurd pressed ((idle_afterAll_iff idle events).mp none key)
  | some key =>
    obtain ⟨pressed, below⟩ := (Keypad.firstPressed?_eq_some_iff _ key).mp found
    have held := (pressed_afterAll_iff idle events key).mp pressed
    refine ⟨key, rfl, held, fun lower isLower held => ?_⟩
    have released := below lower isLower
    rw [(pressed_afterAll_iff idle events lower).mpr held] at released
    cases released

/-- Key events change nothing but the keypad. -/
theorem afterAll_of_keyEvents (m : Machine) {events : List Call}
    (keys : ∀ c ∈ events, c.key?.isSome) : ∃ keypad, m.afterAll events = { m with keypad } := by
  induction events generalizing m with
  | nil => exact ⟨m.keypad, rfl⟩
  | cons c events ih =>
    obtain ⟨first, others⟩ := List.forall_mem_cons.mp keys
    obtain ⟨keypad, left⟩ := ih (m.after c) others
    cases c with
    | press key | release key => exact ⟨keypad, left⟩
    | load rom | step | tick => cases first

end Machine

end ChipEight
