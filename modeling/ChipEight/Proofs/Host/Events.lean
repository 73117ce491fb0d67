import ChipEight.Host.Event
import ChipEight.Proofs.Machine.Keys

/-!
# What events do with the keypad

Events are handed on in order until one of them ends the program. Those of keys that are bound are
calls of the machine (`apply_eq`), and the other ones do nothing. So each key of the keypad is as it
was left by the last event of a host key that stands for it, and it makes no difference what else
happened (`events_reach_keypad`).
-/

namespace ChipEight.Host

namespace Bindings

/-- Whether a key of the host stands for a key of the keypad: its last binding says so. -/
def StandsFor (bindings : Bindings) (hostKey : HostKey) (key : Key) : Prop :=
  ∃ before after, bindings = before ++ (hostKey, key) :: after ∧ ∀ later ∈ after, later.1 ≠ hostKey

variable {bindings : Bindings} {hostKey : HostKey} {key : Key}

theorem key?_eq_some_iff : bindings.key? hostKey = some key ↔ bindings.StandsFor hostKey key := by
  rw [key?, List.lookup_eq_some_iff]
  constructor
  · intro found
    obtain ⟨after, before, reversed, others⟩ := found
    refine ⟨before.reverse, after.reverse, ?_, fun later mem same => ?_⟩
    · rw [List.reverse_eq_iff.mp reversed, List.reverse_append, List.reverse_cons,
        List.append_assoc, List.singleton_append]
    · exact bne_iff_ne.mp (others later (List.mem_reverse.mp mem)) same.symm
  · intro stands
    obtain ⟨before, after, rfl, others⟩ := stands
    refine ⟨after.reverse, before.reverse, ?_, fun later mem => bne_iff_ne.mpr fun same => ?_⟩
    · rw [List.reverse_append, List.reverse_cons, List.append_assoc, List.singleton_append]
    · exact others later (List.mem_reverse.mp mem) same.symm

instance : Decidable (bindings.StandsFor hostKey key) :=
  decidable_of_iff (bindings.key? hostKey = some key) key?_eq_some_iff

theorem key?_eq_none_iff :
    bindings.key? hostKey = none ↔ bindings.any (fun binding => binding.1 == hostKey) = false := by
  rw [key?, List.lookup_eq_none_iff, List.any_eq_false]
  constructor
  · intro free binding mem same
    exact bne_iff_ne.mp (free binding (List.mem_reverse.mpr mem)) (beq_iff_eq.mp same).symm
  · intro free binding mem
    refine bne_iff_ne.mpr fun same => ?_
    exact free binding (List.mem_reverse.mp mem) (beq_iff_eq.mpr same.symm)

end Bindings

namespace Event

/-- What an event asks of the machine, if its key is bound. -/
def call? (bindings : Bindings) : Event → Option Machine.Call
  | down key => (bindings.key? key).map .press
  | up key => (bindings.key? key).map .release
  | quit | mouse => none

/-- The window is closed, or the escape key goes down. -/
def Ends (e : Event) : Prop :=
  e = .quit ∨ e = .down .escape

instance : DecidablePred Ends := fun e =>
  inferInstanceAs (Decidable (e = .quit ∨ e = .down .escape))

/-- The events in front of the first one that ends the program. -/
def handedOn (events : List Event) : List Event :=
  events.takeWhile fun e => !decide e.Ends

/-- Whether an event is one of a host key that has a binding. -/
def isBound (bindings : Bindings) : Event → Bool
  | down hostKey | up hostKey => bindings.any fun binding => binding.1 == hostKey
  | quit | mouse => false

/-- Whether an event can make a difference. -/
def matters (bindings : Bindings) (e : Event) : Bool :=
  decide e.Ends || e.isBound bindings

/-- Whether an event leaves a key of the keypad pressed, if it is one of a host key that stands for
    it. -/
def flag? (bindings : Bindings) (key : Key) : Event → Option Bool
  | down hostKey => if bindings.StandsFor hostKey key then some true else none
  | up hostKey => if bindings.StandsFor hostKey key then some false else none
  | quit | mouse => none

section

variable (bindings : Bindings)

theorem isQuit_eq (e : Event) : e.isQuit = decide e.Ends := by
  cases e with
  | down key => simp [isQuit, Ends, Bool.beq_eq_decide_eq]
  | up key | quit | mouse => simp [isQuit, Ends]

theorem flag?_eq (key : Key) (e : Event) :
    flag? bindings key e = (e.call? bindings).bind (Machine.Call.flag? key) := by
  cases e with
  | quit | mouse => rfl
  | down hostKey | up hostKey =>
    cases bound : bindings.key? hostKey <;>
      simp [flag?, call?, Machine.Call.flag?, ← Bindings.key?_eq_some_iff, bound]

/-- All that events ask of the machine is to press and release keys. -/
theorem forall_key?_of_call? (events : List Event) :
    ∀ c ∈ events.filterMap (call? bindings), c.key?.isSome := by
  intro c mem
  obtain ⟨e, -, asked⟩ := List.mem_filterMap.mp mem
  cases e with
  | quit | mouse => cases asked
  | down hostKey | up hostKey =>
    obtain ⟨key, -, rfl⟩ := Option.map_eq_some_iff.mp asked
    rfl

/-! ## One event -/

theorem apply_eq (m : Machine) (e : Event) :
    e.apply bindings m = (e.call? bindings).elim m m.after := by
  cases e with
  | quit | mouse => rfl
  | down hostKey | up hostKey =>
    rw [apply, call?]
    cases bindings.key? hostKey <;> rfl

theorem apply_of_not_isBound {e : Event} (m : Machine) (free : e.isBound bindings = false) :
    e.apply bindings m = m := by
  cases e with
  | quit | mouse => rfl
  | down hostKey | up hostKey =>
    have missing : bindings.key? hostKey = none := Bindings.key?_eq_none_iff.mpr free
    rw [apply, missing, Option.elim_none]

/-! ## Events in a row -/

theorem foldl_apply (m : Machine) (events : List Event) :
    events.foldl (apply bindings) m = m.afterAll (events.filterMap (call? bindings)) := by
  induction events generalizing m with
  | nil => rfl
  | cons e events ih =>
    rw [List.foldl_cons, ih, apply_eq]
    cases asked : e.call? bindings <;> simp [asked, Machine.afterAll_cons]

theorem applyAll_eq (m : Machine) (events : List Event) :
    applyAll bindings m events =
      (decide (∀ e ∈ events, ¬ e.Ends), (handedOn events).foldl (apply bindings) m) := by
  induction events generalizing m with
  | nil => rfl
  | cons e events ih =>
    rw [applyAll, isQuit_eq, handedOn]
    by_cases ends : e.Ends
    · simp [ends]
    · simp [ends, ih, handedOn]

/-- Events that neither end the program nor are bound might as well not have happened. -/
theorem applyAll_filter (m : Machine) (events : List Event) :
    applyAll bindings m (events.filter (matters bindings)) = applyAll bindings m events := by
  induction events generalizing m with
  | nil => rfl
  | cons e events ih =>
    cases counts : e.matters bindings with
    | true => rw [List.filter_cons_of_pos counts, applyAll, applyAll, ih]
    | false =>
      obtain ⟨stays, free⟩ := Bool.or_eq_false_iff.mp counts
      rw [List.filter_cons_of_neg (by simp [counts]), ih, applyAll, isQuit_eq, stays,
        apply_of_not_isBound bindings m free]
      rfl

end

/-- Taking events from the window ends the program if one of them closes it or presses the escape
    key, and then what comes behind that event is lost. Nothing but the keypad changes, and each of
    its keys is as it was left by the last event of a host key that stands for it. It makes no
    difference to leave out events of host keys that are not bound, and of the mouse. -/
theorem events_reach_keypad (bindings : Bindings) (m : Machine) (events : List Event) :
    let outcome := applyAll bindings m events
    (outcome.1 = false ↔ ∃ e ∈ events, e = .quit ∨ e = .down .escape) ∧
      outcome.2 = (handedOn events).foldl (apply bindings) m ∧
      (∃ keypad, outcome.2 = { m with keypad } ∧
        ∀ key, keypad.keys.get key =
          ((handedOn events).filterMap (flag? bindings key)).getLast?.getD
            (m.keypad.keys.get key)) ∧
      applyAll bindings m (events.filter (matters bindings)) = outcome := by
  intro outcome
  have left : outcome.2 = m.afterAll ((handedOn events).filterMap (call? bindings)) :=
    (congrArg Prod.snd (applyAll_eq bindings m events)).trans (foldl_apply bindings m _)
  obtain ⟨keypad, only⟩ := m.afterAll_of_keyEvents (forall_key?_of_call? bindings _)
  refine ⟨?_, congrArg Prod.snd (applyAll_eq bindings m events), ⟨keypad, left.trans only, ?_⟩,
    applyAll_filter bindings m events⟩
  · rw [show outcome = _ from applyAll_eq bindings m events]
    simp [Ends, or_iff_not_imp_left]
  · intro key
    have flagged := m.key_afterAll ((handedOn events).filterMap (call? bindings)) key
    rw [only, Machine.lastFlag?, List.filterMap_filterMap] at flagged
    simpa only [← flag?_eq] using flagged

/-- Two keys of the host stand for key 5. It is released with the first of them, while the other one
    is held. -/
example :
    let bindings : Bindings := [(.character 'a', 5), (.character 'b', 5)]
    let events : List Event := [.down (.character 'a'), .down (.character 'b'), .up (.character 'a')]
    ((handedOn events).filterMap (flag? bindings 5)).getLast? = some false := by
  decide

end Event

end ChipEight.Host
