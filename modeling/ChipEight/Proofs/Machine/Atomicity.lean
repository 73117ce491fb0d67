import ChipEight.Proofs.Machine.Calls

/-!
# Faults change nothing

A step that faults leaves the machine as it was, and so a run of frames that faults leaves the
machine in front of the step that did: with the completed frames behind it, each with its tick, and
the first steps of one more.
-/

namespace ChipEight.Machine

/-- The calls of a frame of `cycles` steps. -/
def frame (cycles : Int) : List Call :=
  List.replicate cycles.toNat .step ++ [.tick]

/-- The machine `m'` is the one in front of a step that faults. -/
def FaultsAt (m' : Machine) (fault : Fault) : Prop :=
  step m' = .error fault m'

theorem faultsAt_of_step {m m' : Machine} {fault : Fault} (h : step m = .error fault m') :
    m' = m ∧ FaultsAt m fault := by
  obtain ⟨rfl, -⟩ := step_eq_error h
  exact ⟨rfl, h⟩

theorem completes_step {m m₁ m' : Machine} {advance : Advance} {calls : List Call}
    (first : step m = .ok advance m₁) (rest : m₁.Completes calls m') :
    m.Completes (.step :: calls) m' := by
  refine ⟨some advance, m₁, ?_, rest⟩
  rw [exec_step, first]

/-! ## Steps in a row -/

theorem steps_succ_apply (n : Nat) (m : Machine) :
    steps (n + 1) m =
      match step m with
      | .error fault m' => .error fault m'
      | .ok _ m' => steps n m' := by
  rw [steps, bind_apply]
  cases step m <;> rfl

theorem completes_of_steps {n : Nat} {m m' : Machine} (h : steps n m = .ok () m') :
    m.Completes (List.replicate n .step) m' := by
  induction n generalizing m with
  | zero =>
    cases h
    rfl
  | succ n ih =>
    rw [steps_succ_apply] at h
    cases stepped : step m with
    | error fault m₁ => simp [stepped] at h
    | ok advance m₁ =>
      simp only [stepped] at h
      exact completes_step stepped (ih h)

/-- Steps that fault were interrupted in front of one of them. -/
theorem interrupted_of_steps {n : Nat} {m m' : Machine} {fault : Fault}
    (h : steps n m = .error fault m') :
    ∃ j < n, m.Completes (List.replicate j .step) m' ∧ m'.FaultsAt fault := by
  induction n generalizing m with
  | zero => cases h
  | succ n ih =>
    rw [steps_succ_apply] at h
    cases stepped : step m with
    | error refused m₁ =>
      simp only [stepped, EStateM.Result.error.injEq] at h
      obtain ⟨rfl, rfl⟩ := h
      obtain ⟨rfl, faults⟩ := faultsAt_of_step stepped
      exact ⟨0, Nat.succ_pos n, rfl, faults⟩
    | ok advance m₁ =>
      simp only [stepped] at h
      obtain ⟨j, early, done, faults⟩ := ih h
      exact ⟨j + 1, Nat.succ_lt_succ early, completes_step stepped done, faults⟩

/-! ## Frames -/

theorem runFrame_apply (cycles : Int) (m : Machine) :
    runFrame cycles m =
      match steps cycles.toNat m with
      | .error fault m' => .error fault m'
      | .ok () m' => .ok () m'.tick := by
  rw [runFrame, bind_apply]
  cases steps cycles.toNat m <;> rfl

theorem runFrames_succ_apply (frames : Nat) (cycles : Int) (m : Machine) :
    runFrames (frames + 1) cycles m =
      match runFrame cycles m with
      | .error fault m' => .error fault m'
      | .ok () m' => runFrames frames cycles m' := by
  rw [runFrames, bind_apply]
  cases runFrame cycles m <;> rfl

theorem completes_of_runFrame {cycles : Int} {m m' : Machine} (h : runFrame cycles m = .ok () m') :
    m.Completes (frame cycles) m' := by
  rw [runFrame_apply] at h
  cases stepped : steps cycles.toNat m with
  | error fault m₁ => simp [stepped] at h
  | ok _ m₁ =>
    simp only [stepped, EStateM.Result.ok.injEq, true_and] at h
    have ticked : m₁.Completes [.tick] m' := ⟨none, m₁.tick, rfl, h.symm⟩
    exact completes_append (completes_of_steps stepped) ticked

theorem interrupted_of_runFrame {cycles : Int} {m m' : Machine} {fault : Fault}
    (h : runFrame cycles m = .error fault m') :
    ∃ j < cycles.toNat, m.Completes (List.replicate j .step) m' ∧ m'.FaultsAt fault := by
  rw [runFrame_apply] at h
  cases stepped : steps cycles.toNat m with
  | error refused m₁ =>
    simp only [stepped, EStateM.Result.error.injEq] at h
    obtain ⟨rfl, rfl⟩ := h
    exact interrupted_of_steps stepped
  | ok _ m₁ => simp [stepped] at h

theorem completes_of_runFrames {frames : Nat} {cycles : Int} {m m' : Machine}
    (h : runFrames frames cycles m = .ok () m') :
    m.Completes (List.replicate frames (frame cycles)).flatten m' := by
  induction frames generalizing m with
  | zero =>
    cases h
    rfl
  | succ frames ih =>
    rw [runFrames_succ_apply] at h
    cases first : runFrame cycles m with
    | error fault m₁ => simp [first] at h
    | ok _ m₁ =>
      simp only [first] at h
      exact completes_append (completes_of_runFrame first) (ih h)

/-- Frames that fault were interrupted in front of a step of one of them. -/
theorem interrupted_of_runFrames {frames : Nat} {cycles : Int} {m m' : Machine} {fault : Fault}
    (h : runFrames frames cycles m = .error fault m') :
    ∃ done < frames, ∃ j < cycles.toNat,
      m.Completes ((List.replicate done (frame cycles)).flatten ++ List.replicate j .step) m' ∧
      m'.FaultsAt fault := by
  induction frames generalizing m with
  | zero => cases h
  | succ frames ih =>
    rw [runFrames_succ_apply] at h
    cases first : runFrame cycles m with
    | error refused m₁ =>
      simp only [first, EStateM.Result.error.injEq] at h
      obtain ⟨rfl, rfl⟩ := h
      obtain ⟨j, early, done, faults⟩ := interrupted_of_runFrame first
      exact ⟨0, Nat.succ_pos frames, j, early, done, faults⟩
    | ok _ m₁ =>
      simp only [first] at h
      obtain ⟨done, few, j, early, completed, faults⟩ := ih h
      -- The first frame is one of those that have been completed.
      refine ⟨done + 1, Nat.succ_lt_succ few, j, early, ?_, faults⟩
      rw [List.replicate_succ, List.flatten_cons, List.append_assoc]
      exact completes_append (completes_of_runFrame first) completed

/-- A step that faults leaves the whole machine as it was. Frames that fault leave the machine in
    front of the step that faulted, after all the steps and the one tick of each completed frame and
    no tick of the interrupted one. -/
theorem fault_changes_nothing (m : Machine) :
    (∀ fault m', step m = .error fault m' → m' = m) ∧
      ∀ (frames cycles : Int) fault m', runFrames frames.toNat cycles m = .error fault m' →
        ∃ done < frames.toNat, ∃ j < cycles.toNat,
          m.Completes ((List.replicate done (frame cycles)).flatten ++ List.replicate j .step) m' ∧
            step m' = .error fault m' :=
  ⟨fun _ _ failed => (step_eq_error failed).1,
    fun _ _ _ _ failed => interrupted_of_runFrames failed⟩

/-- A frame of two idle steps, and then a return that nobody called for: one tick has passed. -/
theorem fault_changes_nothing_return :
    ∃ memory, Memory.ofSize.load [0x00, 0x00, 0x01, 0x23, 0x00, 0xEE] = .ok memory ∧
      let m : Machine := { random := .ofList [1], memory, timers := ⟨5, 0⟩ }
      let m' : Machine := { m with pc := 0x204, timers := ⟨4, 0⟩ }
      step m' = .error (.stackUnderflow 0x204) m' ∧
        runFrames (Int.toNat 3) 2 m = .error (.stackUnderflow 0x204) m' ∧
        ∃ done < Int.toNat 3, ∃ j < Int.toNat 2,
          m.Completes ((List.replicate done (frame 2)).flatten ++ List.replicate j .step) m' ∧
            step m' = .error (.stackUnderflow 0x204) m' := by
  obtain ⟨memory, loaded, -, -⟩ := Memory.exists_loaded [0x00, 0x00, 0x01, 0x23, 0x00, 0xEE] (by simp)
  refine ⟨memory, loaded, ?_⟩
  intro m m'
  let m₁ : Machine := { m with pc := 0x202 }
  have idle : m.memory.readWord m.pc = .ok (Instruction.word (.sys 0x000)) :=
    Memory.readWord_of_load loaded 0 rfl rfl rfl
  have idleAgain : m₁.memory.readWord m₁.pc = .ok (Instruction.word (.sys 0x123)) :=
    Memory.readWord_of_load loaded 2 rfl rfl rfl
  have returns : memory.readWord 0x204 = .ok (Instruction.word .ret) :=
    Memory.readWord_of_load loaded 4 rfl rfl rfl
  have first : step m = .ok .next m₁ := by
    rw [step_word (i := .sys 0x000) (by simp [Opcode.Collides]) idle]
    rfl
  have second : step m₁ = .ok .next { m with pc := 0x204 } := by
    rw [step_word (i := .sys 0x123) (by simp [Opcode.Collides]) idleAgain]
    rfl
  have refused : step m' = .error (.stackUnderflow 0x204) m' := by
    rw [step_word (m := m') (i := .ret) id returns]
    rfl
  have two : (2 : Int).toNat = 0 + 1 + 1 := rfl
  have completed : runFrame 2 m = .ok () m' := by
    simp only [runFrame_apply, two, steps_succ_apply, first, second]
    rfl
  have interrupted : runFrame 2 m' = .error (.stackUnderflow 0x204) m' := by
    simp only [runFrame_apply, two, steps_succ_apply, refused]
  have failed : runFrames (2 + 1) 2 m = .error (.stackUnderflow 0x204) m' := by
    simp only [runFrames_succ_apply, completed, interrupted]
  obtain ⟨done, few, j, early, calls, faults⟩ := (fault_changes_nothing m).2 3 2 _ _ failed
  exact ⟨faults, failed, done, few, j, early, calls, faults⟩

end ChipEight.Machine
