import ChipEight.Proofs.Machine.Fetching

/-!
# When ticks and keys come

A driver decides where in a run it ticks and passes on key events, and a program can tell by six
instructions only: those that read or set a timer, and those that look at keys. To any other
instruction it makes no difference whether the timers or the keypad are changed in front of it or
behind it (`perform_adjust`). So a run that executes none of the six comes to a run of its steps
alone, with all ticks and key events behind them (`run_adjust`), and where among the steps they were
is lost (`inputs_commute`).
-/

namespace ChipEight.Machine

open Opcode (pattern)

/-- The operations that read or set a timer. -/
def timerPatterns : List String := ["FX07", "FX15", "FX18"]

/-- The operations that look at keys. -/
def keyPatterns : List String := ["EX9E", "EXA1", "FX0A"]

/-- The operations that take a random byte. -/
def randomPatterns : List String := ["CXNN"]

/-- The machine with its timers, its keypad and its source of random bytes changed. -/
def adjust (onTimers : Timers → Timers) (onKeypad : Keypad → Keypad)
    (onRandom : Random.Source → Random.Source) (m : Machine) : Machine :=
  { m with
    timers := onTimers m.timers
    keypad := onKeypad m.keypad
    random := onRandom m.random }

/-- The same answer or fault, but the machine that is left is changed. -/
def changed {α : Type} (change : Machine → Machine) :
    EStateM.Result Fault Machine α → EStateM.Result Fault Machine α
  | .ok a m => .ok a (change m)
  | .error fault m => .error fault (change m)

/-! ## Steps -/

section

variable {onTimers : Timers → Timers} {onKeypad : Keypad → Keypad}
  {onRandom : Random.Source → Random.Source}

theorem performWrite_adjust (block : List UInt8) (m : Machine) :
    performWrite block (m.adjust onTimers onKeypad onRandom) =
      changed (adjust onTimers onKeypad onRandom) (performWrite block m) := by
  simp only [performWrite_apply, adjust]
  cases m.memory.writeBlock m.index block <;> rfl

/-- An instruction that does not look at what has been changed does the same as without the
    change. -/
theorem perform_adjust (i : Instruction) (m : Machine)
    (timers : pattern i ∈ timerPatterns → onTimers = id)
    (keys : pattern i ∈ keyPatterns → onKeypad = id)
    (source : pattern i ∈ randomPatterns → onRandom = id) :
    perform i (m.adjust onTimers onKeypad onRandom) =
      changed (adjust onTimers onKeypad onRandom) (perform i m) := by
  cases i with
  | readDelay x | setDelay x | setSound x =>
    obtain rfl := timers (by simp [pattern, timerPatterns])
    rfl
  | skipPressed x | skipReleased x =>
    obtain rfl := keys (by simp [pattern, keyPatterns])
    rfl
  | waitKey x =>
    obtain rfl := keys (by simp [pattern, keyPatterns])
    simp only [perform, performWaitKey_apply, adjust, id]
    cases m.keypad.firstPressed? <;> rfl
  | ret =>
    simp only [perform, performReturn_apply, adjust]
    cases m.stack.pop? <;> rfl
  | call target =>
    simp only [perform, performCall_apply, adjust]
    cases m.stack.push? m.pc <;> rfl
  | random x mask =>
    obtain rfl := source (by simp [pattern, randomPatterns])
    simp only [perform, performRandom_apply, adjust, id]
    cases m.random.next? <;> rfl
  | draw x y rows =>
    simp only [perform, performDraw_apply, adjust]
    cases m.memory.readBlock m.index rows.val <;> rfl
  | storeDecimal x => exact performWrite_adjust _ m
  | storeRegisters x => exact performWrite_adjust _ m
  | loadRegisters x =>
    simp only [perform, performRead_apply, adjust]
    cases m.memory.readVector m.index (x.val + 1) <;> rfl
  | _ => rfl

theorem advance_adjust (m : Machine) (advance : Advance) :
    (m.adjust onTimers onKeypad onRandom).advance advance =
      (m.advance advance).adjust onTimers onKeypad onRandom := by
  cases advance <;> rfl

theorem step_adjust (m : Machine) (onTimers : Timers → Timers) (onKeypad : Keypad → Keypad)
    (onRandom : Random.Source → Random.Source)
    (timers : m.Fetches timerPatterns → onTimers = id)
    (keys : m.Fetches keyPatterns → onKeypad = id)
    (source : m.Fetches randomPatterns → onRandom = id) :
    step (m.adjust onTimers onKeypad onRandom) =
      changed (adjust onTimers onKeypad onRandom) (step m) := by
  have same : (m.adjust onTimers onKeypad onRandom).current = m.current := rfl
  rw [step_eq, step_eq, same]
  cases found : m.current with
  | error fault => rfl
  | ok i =>
    have performed := perform_adjust i m (fun listed => timers (fetches_of_current found listed))
      (fun listed => keys (fetches_of_current found listed))
      (fun listed => source (fetches_of_current found listed))
    simp only [performAndAdvance_apply, performed]
    cases perform i m with
    | error fault m' => rfl
    | ok advance m' => exact congrArg _ (advance_adjust m' advance)

theorem fetches_adjust_iff (m : Machine) (patterns : List String) :
    (m.adjust onTimers onKeypad onRandom).Fetches patterns ↔ m.Fetches patterns := by
  rw [fetches_iff, fetches_iff]
  rfl

end

/-! ## Calls -/

/-- Whether a call is a tick or a key event, which a driver makes when it likes. -/
def Call.isInput : Call → Bool
  | .tick | .press _ | .release _ => true
  | .load _ | .step => false

/-- What a call does to the timers, if it is a tick. -/
def Call.onTimers : Call → Timers → Timers
  | .tick, t => t.tick
  | .load _, t | .step, t | .press _, t | .release _, t => t

/-- What a call does to the keypad, if it is a key event. -/
def Call.onKeypad : Call → Keypad → Keypad
  | .press key, p => p.press key
  | .release key, p => p.release key
  | .load _, p | .step, p | .tick, p => p

/-- The loads and the steps among calls. -/
def program (calls : List Call) : List Call :=
  calls.filter (!·.isInput)

/-- The key events among calls. -/
def keyEvents (calls : List Call) : List Call :=
  calls.filter (·.key?.isSome)

/-- What the ticks among calls do to the timers. -/
def tickAll (calls : List Call) : Timers → Timers :=
  Timers.tick^[calls.count .tick]

/-- What the key events among calls do to the keypad. -/
def handleAll (calls : List Call) (p : Keypad) : Keypad :=
  (keyEvents calls).foldl (fun p c => c.onKeypad p) p

/-- The answer of a computation, or the fault that it raised. -/
def answer {α : Type} : EStateM.Result Fault Machine α → Except Fault α
  | .ok a _ => .ok a
  | .error fault _ => .error fault

/-- What the loads and the steps among calls answered, or the faults that they raised. -/
def answers (m : Machine) : List Call → List (Except Fault (Option Advance))
  | [] => []
  | c :: calls =>
    if c.isInput then (m.after c).answers calls
    else answer (c.exec m) :: (m.after c).answers calls

section

variable {onTimers : Timers → Timers} {onKeypad : Keypad → Keypad}
  {onRandom : Random.Source → Random.Source} {m : Machine} {c : Call}

theorem tickAll_cons (calls : List Call) : tickAll (c :: calls) = tickAll calls ∘ c.onTimers := by
  cases c with
  | tick => rw [tickAll, List.count_cons_self, Function.iterate_succ, tickAll]; rfl
  | load rom | step | press key | release key => rfl

theorem handleAll_cons (calls : List Call) :
    handleAll (c :: calls) = handleAll calls ∘ c.onKeypad := by
  cases c <;> rfl

theorem unmoved (inside : c.isInput = false) : c.onTimers = id ∧ c.onKeypad = id := by
  cases c with
  | load rom | step => exact ⟨rfl, rfl⟩
  | tick | press key | release key => cases inside

theorem after_input (input : c.isInput = true) :
    (m.adjust onTimers onKeypad id).after c =
      m.adjust (c.onTimers ∘ onTimers) (c.onKeypad ∘ onKeypad) id := by
  cases c with
  | load rom | step => cases input
  | tick | press key | release key => rfl

/-- A call cannot tell what is changed: no operation that it executes looks at that. -/
structure Blind (m : Machine) (onTimers : Timers → Timers) (onKeypad : Keypad → Keypad)
    (onRandom : Random.Source → Random.Source) (c : Call) : Prop where
  input : c.isInput = true → onTimers = id ∧ onKeypad = id
  timers : c = .step → m.Fetches timerPatterns → onTimers = id
  keys : c = .step → m.Fetches keyPatterns → onKeypad = id
  source : c = .step → m.Fetches randomPatterns → onRandom = id

theorem exec_adjust (blind : m.Blind onTimers onKeypad onRandom c) :
    c.exec (m.adjust onTimers onKeypad onRandom) =
      changed (adjust onTimers onKeypad onRandom) (c.exec m) := by
  cases c with
  | load rom =>
    simp only [exec_load, adjust]
    cases m.memory.load rom <;> rfl
  | step =>
    rw [exec_step, exec_step, step_adjust m onTimers onKeypad onRandom (blind.timers rfl)
      (blind.keys rfl) (blind.source rfl)]
    cases step m <;> rfl
  | tick | press key | release key =>
    obtain ⟨rfl, rfl⟩ := blind.input rfl
    rfl

theorem after_adjust (blind : m.Blind onTimers onKeypad onRandom c) :
    (m.adjust onTimers onKeypad onRandom).after c =
      (m.after c).adjust onTimers onKeypad onRandom := by
  rw [after, exec_adjust blind, after]
  cases c.exec m <;> rfl

theorem answer_adjust (blind : m.Blind onTimers onKeypad onRandom c) :
    answer (c.exec (m.adjust onTimers onKeypad onRandom)) = answer (c.exec m) := by
  rw [exec_adjust blind]
  cases c.exec m <;> rfl

/-- Where the next call is no tick and no key event and executes none of the six operations, it
    cannot tell what the timers and the keypad are. -/
theorem blind_of_unlisted (inside : c.isInput = false)
    (unlisted : c = .step → ¬ m.Fetches (timerPatterns ++ keyPatterns)) :
    m.Blind onTimers onKeypad id c where
  input input := by simp [inside] at input
  timers isStep seen := absurd (seen.mono (List.subset_append_left _ _)) (unlisted isStep)
  keys isStep seen := absurd (seen.mono (List.subset_append_right _ _)) (unlisted isStep)
  source _ _ := rfl

/-! ## Runs -/

theorem program_cons_of_input (calls : List Call) (input : c.isInput = true) :
    program (c :: calls) = program calls :=
  List.filter_cons_of_neg (by simp [input])

theorem program_cons (calls : List Call) (inside : c.isInput = false) :
    program (c :: calls) = c :: program calls :=
  List.filter_cons_of_pos (by simp [inside])

/-- What is done to the timers and the keypad on the way does not bring a run to one of the six
    operations. -/
theorem avoids_adjust_iff (onTimers : Timers → Timers) (onKeypad : Keypad → Keypad)
    (calls : List Call) :
    (m.adjust onTimers onKeypad id).Avoids (timerPatterns ++ keyPatterns) calls ↔
      m.Avoids (timerPatterns ++ keyPatterns) (program calls) := by
  induction calls generalizing m onTimers onKeypad with
  | nil => exact Iff.rfl
  | cons c calls ih =>
    cases input : c.isInput with
    | true =>
      have noStep : c ≠ .step := by
        rintro rfl
        cases input
      rw [program_cons_of_input calls input, Avoids, after_input input, ih]
      exact and_iff_right fun isStep => absurd isStep noStep
    | false =>
      rw [program_cons calls input, Avoids, Avoids, fetches_adjust_iff]
      refine and_congr_right fun unlisted => ?_
      rw [after_adjust (blind_of_unlisted input unlisted)]
      exact ih onTimers onKeypad

/-- A run that executes none of the six operations comes to the run of its loads and steps alone,
    with what its ticks and key events do to the timers and the keypad done in the end. -/
theorem run_adjust (onTimers : Timers → Timers) (onKeypad : Keypad → Keypad) (calls : List Call)
    (avoids : m.Avoids (timerPatterns ++ keyPatterns) (program calls)) :
    (m.adjust onTimers onKeypad id).afterAll calls =
        (m.afterAll (program calls)).adjust (tickAll calls ∘ onTimers)
          (handleAll calls ∘ onKeypad) id ∧
      (m.adjust onTimers onKeypad id).answers calls = m.answers (program calls) := by
  -- A tick or a key event joins the change, and a load or a step takes place behind it.
  induction calls generalizing m onTimers onKeypad with
  | nil => exact ⟨rfl, rfl⟩
  | cons c calls ih =>
    rw [afterAll_cons, answers, tickAll_cons, handleAll_cons]
    cases input : c.isInput with
    | true =>
      rw [program_cons_of_input calls input] at avoids ⊢
      rw [after_input input]
      exact ih _ _ avoids
    | false =>
      rw [program_cons calls input] at avoids ⊢
      obtain ⟨unlisted, avoids⟩ := avoids
      obtain ⟨left, answered⟩ := ih onTimers onKeypad avoids
      rw [after_adjust (blind_of_unlisted input unlisted),
        answer_adjust (blind_of_unlisted input unlisted), answers, input, left, answered,
        (unmoved input).1, (unmoved input).2]
      exact ⟨rfl, rfl⟩

theorem avoids_program_iff (calls : List Call) :
    m.Avoids (timerPatterns ++ keyPatterns) calls ↔
      m.Avoids (timerPatterns ++ keyPatterns) (program calls) :=
  avoids_adjust_iff id id calls

theorem run_program {calls : List Call} (avoids : m.Avoids (timerPatterns ++ keyPatterns) calls) :
    m.afterAll calls =
        (m.afterAll (program calls)).adjust (tickAll calls) (handleAll calls) id ∧
      m.answers calls = m.answers (program calls) :=
  run_adjust id id calls ((avoids_program_iff calls).mp avoids)

end

/-- Two runs have the same loads and steps in the same order, the same number of ticks, and the same
    key events in the same order. -/
structure Rearranged (calls calls' : List Call) : Prop where
  program : program calls' = program calls
  ticks : calls'.count .tick = calls.count .tick
  keys : keyEvents calls' = keyEvents calls

/-- A tick and a step commute if the step does not read or set a timer, and so do a key event and a
    step that does not look at keys. In a run that executes none of the six operations that can tell,
    it makes no difference at all to which places the ticks and the key events are moved. -/
theorem inputs_commute (m : Machine) :
    (¬ m.Fetches timerPatterns → step m.tick = changed tick (step m)) ∧
      (¬ m.Fetches keyPatterns → ∀ key, step (m.press key) = changed (press key) (step m) ∧
        step (m.release key) = changed (release key) (step m)) ∧
      ∀ calls calls', m.Avoids (timerPatterns ++ keyPatterns) calls → Rearranged calls calls' →
        m.afterAll calls' = m.afterAll calls ∧ m.answers calls' = m.answers calls := by
  refine ⟨fun free => ?_, fun free key => ⟨?_, ?_⟩, fun calls calls' avoids moved => ?_⟩
  · exact step_adjust m Timers.tick id id (fun seen => absurd seen free) (fun _ => rfl)
      fun _ => rfl
  · exact step_adjust m id (·.press key) id (fun _ => rfl) (fun seen => absurd seen free)
      fun _ => rfl
  · exact step_adjust m id (·.release key) id (fun _ => rfl) (fun seen => absurd seen free)
      fun _ => rfl
  · have avoids' : m.Avoids (timerPatterns ++ keyPatterns) calls' := by
      rwa [avoids_program_iff, moved.program, ← avoids_program_iff]
    have ticks : tickAll calls' = tickAll calls := congrArg (Timers.tick^[·]) moved.ticks
    have keys : handleAll calls' = handleAll calls :=
      funext fun p => congrArg (List.foldl _ p) moved.keys
    obtain ⟨left, answered⟩ := run_program avoids
    obtain ⟨left', answered'⟩ := run_program avoids'
    rw [moved.program, ticks, keys] at left'
    rw [moved.program] at answered'
    exact ⟨left'.trans left.symm, answered'.trans answered.symm⟩

/-- A run whose second step is a return that nobody called for. -/
theorem inputs_commute_return :
    ∃ memory, Memory.ofSize.load [0x61, 0x05, 0x00, 0xEE] = .ok memory ∧
      let m : Machine := { random := .ofList [1], memory, timers := ⟨3, 0⟩ }
      let calls : List Call := [.step, .tick, .press 5, .step, .release 5, .press 2, .tick]
      let calls' : List Call := [.tick, .press 5, .release 5, .tick, .step, .press 2, .step]
      ¬ m.Fetches timerPatterns ∧ step m.tick = changed tick (step m) ∧
        ¬ m.Fetches keyPatterns ∧ step (m.release 5) = changed (release 5) (step m) ∧
        m.Avoids (timerPatterns ++ keyPatterns) calls ∧ Rearranged calls calls' ∧
        m.afterAll calls' = m.afterAll calls ∧
        m.answers calls' = [.ok (some .next), .error (.stackUnderflow 0x202)] := by
  obtain ⟨memory, loaded, -, -⟩ := Memory.exists_loaded [0x61, 0x05, 0x00, 0xEE] (by simp)
  refine ⟨memory, loaded, ?_⟩
  intro m calls calls'
  let m₁ : Machine := { m.setRegister 1 5 with pc := 0x202 }
  have loads : m.memory.readWord m.pc = .ok (Instruction.word (.load 1 5)) :=
    Memory.readWord_of_load loaded 0 rfl rfl rfl
  have returns : m₁.memory.readWord m₁.pc = .ok (Instruction.word .ret) :=
    Memory.readWord_of_load loaded 2 rfl rfl rfl
  have first : step m = .ok .next m₁ := by
    rw [step_word (i := .load 1 5) id loads]
    rfl
  have second : step m₁ = .error (.stackUnderflow 0x202) m₁ := by
    rw [step_word (i := .ret) id returns]
    rfl
  have noTimer : ¬ m.Fetches timerPatterns := not_fetches loads (by decide)
  have noKey : ¬ m.Fetches keyPatterns := not_fetches loads (by decide)
  have next : m.after .step = m₁ := by rw [after_step, first]; rfl
  have avoids : m.Avoids (timerPatterns ++ keyPatterns) calls := by
    refine (avoids_program_iff calls).mpr
      ⟨fun _ => not_fetches loads (by decide), fun _ => ?_, trivial⟩
    rw [next]
    exact not_fetches returns (by decide)
  have moved : Rearranged calls calls' := ⟨by decide, by decide, by decide⟩
  have executed : answer (Call.exec .step m) = .ok (some .next) := by rw [exec_step, first]; rfl
  have refused : answer (Call.exec .step m₁) = .error (.stackUnderflow 0x202) := by
    rw [exec_step, second]
    rfl
  have answered : m.answers [.step, .step] = [.ok (some .next), .error (.stackUnderflow 0x202)] := by
    change [answer (Call.exec .step m), answer (Call.exec .step (m.after .step))] = _
    rw [next, executed, refused]
  obtain ⟨ticks, keys, runs⟩ := inputs_commute m
  obtain ⟨left, same⟩ := runs calls calls' avoids moved
  exact ⟨noTimer, ticks noTimer, noKey, (keys noKey 5).2, avoids, moved, left,
    same.trans ((run_program avoids).2.trans answered)⟩

end ChipEight.Machine
