import ChipEight.Proofs.Machine.Outcome

/-!
# Calls from outside

A driver loads programs, steps, ticks and passes on key events, in any order. A call may fault; the
driver can go on with the machine that is left. `Machine.afterAll` is the machine that a sequence of
calls leaves, and `Machine.Completes` says that none of them faulted.
-/

namespace ChipEight.Machine

/-- What a driver can ask of a machine. -/
inductive Call
  | load (rom : List UInt8)
  | step
  | tick
  | press (key : Key)
  | release (key : Key)
  deriving DecidableEq, Repr

/-- Does what a call asks for. Only a step has an answer. -/
def Call.exec : Call → Exec (Option Advance)
  | .load rom => do
    Machine.load rom
    return none
  | .step => do
    let advance ← Machine.step
    return some advance
  | .tick => do
    modify Machine.tick
    return none
  | .press key => do
    modify (Machine.press key)
    return none
  | .release key => do
    modify (Machine.release key)
    return none

/-- The key that a call presses or releases. -/
def Call.key? : Call → Option Key
  | .press key | .release key => some key
  | .load _ | .step | .tick => none

/-- The machine that a computation leaves, whether or not it faulted. -/
def left {α : Type} : EStateM.Result Fault Machine α → Machine
  | .ok _ m | .error _ m => m

/-- The machine after a call. -/
def after (m : Machine) (c : Call) : Machine :=
  left (c.exec m)

/-- The machine after calls in order. -/
def afterAll (m : Machine) (calls : List Call) : Machine :=
  calls.foldl after m

/-- The calls lead from `m` to `m'` without a fault. -/
def Completes (m : Machine) : List Call → Machine → Prop
  | [], m' => m' = m
  | c :: calls, m' => ∃ answer m₁, c.exec m = .ok answer m₁ ∧ Completes m₁ calls m'

/-! ## What a call comes to -/

theorem exec_step (m : Machine) :
    Call.exec .step m =
      match step m with
      | .error fault m' => .error fault m'
      | .ok advance m' => .ok (some advance) m' := by
  rw [Call.exec, bind_apply]
  cases step m <;> rfl

theorem load_apply (rom : List UInt8) (m : Machine) :
    load rom m =
      match m.memory.load rom with
      | .error fault => .error fault m
      | .ok memory => .ok () { m with memory } := by
  rw [load, get_bind_apply]
  cases m.memory.load rom <;> rfl

theorem exec_load (rom : List UInt8) (m : Machine) :
    Call.exec (.load rom) m =
      match m.memory.load rom with
      | .error fault => .error fault m
      | .ok memory => .ok none { m with memory } := by
  rw [Call.exec, bind_apply, load_apply]
  cases m.memory.load rom <;> rfl

@[simp] theorem after_tick (m : Machine) : m.after .tick = m.tick := rfl

@[simp] theorem after_press (m : Machine) (key : Key) : m.after (.press key) = m.press key := rfl

@[simp] theorem after_release (m : Machine) (key : Key) :
    m.after (.release key) = m.release key := rfl

theorem after_step (m : Machine) : m.after .step = left (step m) := by
  rw [after, exec_step]
  cases step m <;> rfl

theorem afterAll_cons (m : Machine) (c : Call) (calls : List Call) :
    m.afterAll (c :: calls) = (m.after c).afterAll calls := rfl

theorem afterAll_append (m : Machine) (calls rest : List Call) :
    m.afterAll (calls ++ rest) = (m.afterAll calls).afterAll rest :=
  List.foldl_append

theorem completes_append {m m₁ m' : Machine} {calls rest : List Call} (first : m.Completes calls m₁)
    (second : m₁.Completes rest m') : m.Completes (calls ++ rest) m' := by
  induction calls generalizing m with
  | nil =>
    obtain rfl : m₁ = m := first
    exact second
  | cons c calls ih =>
    obtain ⟨answer, m₂, done, remaining⟩ := first
    exact ⟨answer, m₂, done, ih remaining⟩

/-- Calls that complete are calls after which the driver has the machine they lead to. -/
theorem afterAll_of_completes {m m' : Machine} {calls : List Call} (h : m.Completes calls m') :
    m.afterAll calls = m' := by
  induction calls generalizing m with
  | nil => exact (show m' = m from h).symm
  | cons c calls ih =>
    obtain ⟨answer, m₁, done, remaining⟩ := h
    have next : m.after c = m₁ := by rw [after, done]; rfl
    rw [afterAll_cons, next]
    exact ih remaining

end ChipEight.Machine
