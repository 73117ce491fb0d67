import ChipEight.Assembly.Program
import ChipEight.Proofs.Computation
import Mathlib

/-!
# The first pass, action by action

`perform_eq` says once what an action does: it fails with the error that `Listing.fault?` names, or
it leaves the listing that `Listing.extend` makes. A row of actions runs through exactly if all of
them pass on their own and no label comes twice (`runs_iff`); what it leaves is read off the actions
(`chunks_after`, `size_after`, `labels_after`).
-/

namespace ChipEight.Assembly

/-! ## Actions on their own -/

namespace Action

/-- The numbers that an action has checked, with the places they go to. -/
def operands : Action → List (Field × Int)
  | .word _ operands => operands
  | .data values => values.map fun v => (.byte, v)
  | .reference _ _ | .bytes _ | .label _ | .unknown _ => []

/-- What an action puts into a program. -/
def chunks : Action → List Chunk
  | .word template operands =>
    match encode template operands with
    | .ok encoded => [.bytes (wordBytes encoded)]
    | .error _ => []
  | .reference template name => [.reference template name]
  | .data values => [.bytes (values.map fun v => UInt8.ofNat v.toNat)]
  | .bytes block => [.bytes block]
  | .label _ | .unknown _ => []

/-- The number of bytes that an action comes to. -/
def size (a : Action) : Nat := (a.chunks.map Chunk.size).sum

/-- The label that an action defines. -/
def label? : Action → Option String
  | .label name => some name
  | _ => none

theorem label?_eq_some_iff {a : Action} {name : String} :
    a.label? = some name ↔ a = .label name := by
  cases a <;> simp [label?]

end Action

/-- Whether a number does not fit into its place. -/
def isOutside (operand : Field × Int) : Bool :=
  ¬ (0 ≤ operand.2 ∧ operand.2 < operand.1.limit)

theorem not_isOutside_iff (operand : Field × Int) :
    ¬ isOutside operand = true ↔ 0 ≤ operand.2 ∧ operand.2 < operand.1.limit := by
  rw [isOutside, decide_eq_true_eq, Decidable.not_not]

/-- The error about a number that does not fit into its place. -/
def outsideError (operand : Field × Int) : Error :=
  if Decimal.isWritable operand.2 then .outOfRange operand.1.what operand.2 operand.1.limit
  else .numberTooLong

theorem checkRange_eq (operand : Field × Int) :
    checkRange operand.1.what operand.2 operand.1.limit =
      if isOutside operand then .error (outsideError operand) else .ok () := by
  obtain ⟨field, value⟩ := operand
  -- Every limit is short, so it is the number alone that may be too long for a message.
  have limitWritable : Decimal.isWritable ((field.limit : Int) - 1) = true := by
    have small : ((field.limit : Int) - 1).natAbs < Decimal.tenTo 4 := by cases field <;> decide
    exact Decimal.isWritable_of_lt small (by decide)
  by_cases inside : 0 ≤ value ∧ value < field.limit
  · have notOutside : isOutside (field, value) = false := decide_eq_false (not_not_intro inside)
    simp only [checkRange, if_pos inside, notOutside, Bool.false_eq_true, if_false]
  · have outside : isOutside (field, value) = true := decide_eq_true inside
    simp only [checkRange, if_neg inside, outside, limitWritable, Bool.and_true, outsideError,
      if_true]
    split <;> rfl

/-! ## One action -/

namespace Listing

/-- The error that an action fails with. -/
def fault? (l : Listing) (a : Action) : Option Error :=
  match a.operands.find? isOutside with
  | some operand => some (outsideError operand)
  | none =>
    match a with
    | .word template operands =>
      match encode template operands with
      | .ok _ => none
      | .error e => some e
    | .label name => if (l.offset? name).isSome then some (.duplicateLabel name) else none
    | .unknown text => some (.unknownCommand text l.moduleName)
    | .reference _ _ | .data _ | .bytes _ => none

/-- What an action that does not fail leaves. -/
def extend (l : Listing) : Action → Listing
  | .word template operands =>
    match encode template operands with
    | .ok word => (l.note (.issued word)).append (.bytes (wordBytes word))
    | .error _ => l
  | .reference template label => (l.note (.reference label)).append (.reference template label)
  | .data values => l.append (.bytes (values.map fun v => UInt8.ofNat v.toNat))
  | .bytes block => l.append (.bytes block)
  | .label name => { l with labels := (name, l.size) :: l.labels }.note (.label name l.size)
  | .unknown _ => l

end Listing

namespace FirstPass

theorem check_apply (operands : List (Field × Int)) (l : Listing) :
    check operands l =
      match operands.find? isOutside with
      | some operand => .error (outsideError operand) l
      | none => .ok () l := by
  induction operands with
  | nil => rfl
  | cons operand operands ih =>
    change (ofExcept (checkRange operand.1.what operand.2 operand.1.limit) >>= fun _ =>
      check operands) l = _
    rw [bind_apply, checkRange_eq]
    cases outside : isOutside operand with
    | true => simp only [List.find?_cons, outside]; rfl
    | false => simp only [List.find?_cons, outside]; exact ih

/-- What an action does. -/
theorem perform_eq (a : Action) (l : Listing) :
    perform a l =
      match l.fault? a with
      | some e => .error e l
      | none => .ok () (l.extend a) := by
  cases a with
  | word template operands =>
    simp only [perform, bind_apply, check_apply, Listing.fault?, Action.operands, Listing.extend]
    cases operands.find? isOutside with
    | some operand => rfl
    | none => cases encode template operands <;> rfl
  | data values =>
    simp only [perform, bind_apply, check_apply, Listing.fault?, Action.operands, Listing.extend]
    cases (values.map fun v => (Field.byte, v)).find? isOutside <;> rfl
  | label name =>
    change (get >>= _ : FirstPass Unit) l = _
    rw [bind_apply]
    change (if (l.offset? name).isSome then _ else _ : FirstPass Unit) l = _
    simp only [Listing.fault?, Action.operands, List.find?_nil]
    split <;> rfl
  | reference template name => rfl
  | bytes block => rfl
  | unknown text => rfl

end FirstPass

/-! ## Rows of actions -/

/-- Whether an action passes wherever it stands, but for its label. -/
def Action.Passes (a : Action) : Prop :=
  a.operands.find? isOutside = none ∧
    match a with
    | .word template operands => ∃ encoded, encode template operands = .ok encoded
    | .unknown _ => False
    | .reference _ _ | .data _ | .bytes _ | .label _ => True

/-- The labels that actions define, with their offsets, if the first action has the offset given. -/
def offsets : (offset : Nat) → List Action → List (String × Nat)
  | _, [] => []
  | offset, a :: actions => (a.label?.map (·, offset)).toList ++ offsets (offset + a.size) actions

namespace Listing

/-- What a row of actions leaves that runs through. -/
def after (l : Listing) (actions : List Action) : Listing := actions.foldl extend l

/-- Whether a row of actions runs through. -/
def Runs : Listing → List Action → Prop
  | _, [] => True
  | l, a :: actions => l.fault? a = none ∧ Runs (l.extend a) actions

theorem chunks_extend (l : Listing) (a : Action) :
    (l.extend a).chunks.toList = l.chunks.toList ++ a.chunks := by
  cases a with
  | word template operands =>
    simp only [extend, Action.chunks]
    cases encode template operands <;> simp [append, note]
  | reference _ _ | data _ | bytes _ => simp [extend, Action.chunks, append, note]
  | label _ | unknown _ => simp [extend, Action.chunks, note]

theorem size_extend (l : Listing) (a : Action) : (l.extend a).size = l.size + a.size := by
  cases a with
  | word template operands =>
    simp only [extend, Action.size, Action.chunks]
    cases encode template operands <;> simp [append, note]
  | reference _ _ | data _ | bytes _ => simp [extend, Action.size, Action.chunks, append, note]
  | label _ | unknown _ => simp [extend, Action.size, Action.chunks, note]

theorem labels_extend (l : Listing) (a : Action) :
    (l.extend a).labels = (a.label?.map (·, l.size)).toList ++ l.labels := by
  cases a with
  | word template operands =>
    simp only [extend, Action.label?]
    cases encode template operands <;> simp [append, note]
  | reference _ _ | data _ | bytes _ | label _ | unknown _ =>
    simp [extend, Action.label?, append, note]

theorem chunks_after (l : Listing) (actions : List Action) :
    (l.after actions).chunks.toList = l.chunks.toList ++ actions.flatMap Action.chunks := by
  induction actions generalizing l with
  | nil => simp [after]
  | cons a actions ih =>
    change ((l.extend a).after actions).chunks.toList = _
    rw [ih, chunks_extend, List.flatMap_cons, List.append_assoc]

theorem size_after (l : Listing) (actions : List Action) :
    (l.after actions).size = l.size + (actions.map Action.size).sum := by
  induction actions generalizing l with
  | nil => rfl
  | cons a actions ih =>
    change ((l.extend a).after actions).size = _
    rw [ih, size_extend, List.map_cons, List.sum_cons, Nat.add_assoc]

theorem labels_after (l : Listing) (actions : List Action) :
    (l.after actions).labels = (offsets l.size actions).reverse ++ l.labels := by
  induction actions generalizing l with
  | nil => rfl
  | cons a actions ih =>
    change ((l.extend a).after actions).labels = _
    rw [ih, size_extend, labels_extend, offsets, List.reverse_append, List.append_assoc]
    cases a.label? <;> rfl

/-- An action that does not fail gives its label the offset that comes next, and leaves the others
    theirs. -/
theorem offset?_extend (l : Listing) (a : Action) (name : String) :
    (l.extend a).offset? name = if a.label? = some name then some l.size else l.offset? name := by
  rw [offset?, labels_extend, offset?]
  cases a.label? with
  | none => simp
  | some other =>
    simp only [Option.map_some, Option.toList_some, List.singleton_append, List.lookup_cons]
    by_cases same : name = other
    · subst same
      simp
    · simp [beq_false_of_ne same, Ne.symm same]

theorem offset?_extend_eq_none_iff (l : Listing) (a : Action) (name : String) :
    (l.extend a).offset? name = none ↔ a.label? ≠ some name ∧ l.offset? name = none := by
  rw [offset?_extend]
  split <;> simp [*]

theorem fault?_eq_none_iff (l : Listing) (a : Action) :
    l.fault? a = none ↔ a.Passes ∧ ∀ name, a.label? = some name → l.offset? name = none := by
  simp only [fault?, Action.Passes]
  cases a.operands.find? isOutside with
  | some operand => simp
  | none =>
    cases a with
    | word template operands =>
      dsimp only
      cases encode template operands <;> simp [Action.label?]
    | label name => simp [Action.label?]
    | reference _ _ | data _ | bytes _ | unknown _ => simp [Action.label?]

/-- Actions run through if each passes on its own and the labels are all different and new. -/
theorem runs_iff (l : Listing) (actions : List Action) :
    l.Runs actions ↔
      (∀ a ∈ actions, a.Passes) ∧ (actions.filterMap Action.label?).Nodup ∧
        ∀ name ∈ actions.filterMap Action.label?, l.offset? name = none := by
  induction actions generalizing l with
  | nil => simp [Runs]
  | cons a actions ih =>
    rw [Runs, ih, fault?_eq_none_iff]
    cases defined : a.label? with
    | none => simp [defined, offset?_extend_eq_none_iff, and_assoc]
    | some name =>
      simp only [defined, offset?_extend_eq_none_iff, List.filterMap_cons_some defined,
        List.forall_mem_cons, List.nodup_cons, Option.some.injEq, forall_eq']
      constructor
      · rintro ⟨⟨passes, new⟩, allPass, distinct, others⟩
        refine ⟨⟨passes, allPass⟩, ⟨fun again => (others name again).1 rfl, distinct⟩,
          new, fun other mem => ?_⟩
        exact (others other mem).2
      · rintro ⟨⟨passes, allPass⟩, ⟨once, distinct⟩, new, others⟩
        refine ⟨⟨passes, new⟩, allPass, distinct, fun other mem => ⟨fun same => ?_,
          others other mem⟩⟩
        obtain rfl := Option.some.inj same
        exact once mem

/-- Actions either run through or fail at the first that does not. -/
theorem runs_or_fault (l : Listing) (actions : List Action) :
    l.Runs actions ∨
      ∃ earlier a later e,
        actions = earlier ++ a :: later ∧ l.Runs earlier ∧ (l.after earlier).fault? a = some e := by
  induction actions generalizing l with
  | nil => exact .inl trivial
  | cons a actions ih =>
    cases fault : l.fault? a with
    | some e => exact .inr ⟨[], a, actions, e, rfl, trivial, fault⟩
    | none =>
      obtain runs | ⟨earlier, bad, later, e, rfl, runs, found⟩ := ih (l.extend a)
      · exact .inl ⟨fault, runs⟩
      · exact .inr ⟨a :: earlier, bad, later, e, rfl, ⟨fault, runs⟩, found⟩

end Listing

namespace FirstPass

theorem forM_cons_apply (a : Action) (actions : List Action) (l : Listing) :
    (a :: actions).forM perform l =
      match l.fault? a with
      | some e => .error e l
      | none => actions.forM perform (l.extend a) := by
  change (perform a >>= fun _ => actions.forM perform) l = _
  rw [bind_apply, perform_eq]
  cases l.fault? a <;> rfl

theorem forM_of_runs (l : Listing) (actions : List Action) (runs : l.Runs actions) :
    actions.forM perform l = .ok () (l.after actions) := by
  induction actions generalizing l with
  | nil => rfl
  | cons a actions ih =>
    rw [forM_cons_apply, runs.1]
    exact ih (l.extend a) runs.2

theorem forM_of_fault (l : Listing) (earlier later : List Action) (a : Action) (e : Error)
    (runs : l.Runs earlier) (fault : (l.after earlier).fault? a = some e) :
    (earlier ++ a :: later).forM perform l = .error e (l.after earlier) := by
  induction earlier generalizing l with
  | nil =>
    change l.fault? a = some e at fault
    rw [List.nil_append, forM_cons_apply, fault]
    rfl
  | cons first earlier ih =>
    rw [List.cons_append, forM_cons_apply, runs.1]
    exact ih (l.extend first) runs.2 fault

end FirstPass

/-! ## Modules -/

/-- Whether two listings differ in nothing but their notes and the module at hand. -/
structure Listing.Alike (l l' : Listing) : Prop where
  chunks : l.chunks.toList = l'.chunks.toList
  size : l.size = l'.size
  labels : l.labels = l'.labels

namespace Listing.Alike

variable {l l' : Listing}

theorem refl (l : Listing) : l.Alike l := ⟨rfl, rfl, rfl⟩

theorem trans {l'' : Listing} (first : l.Alike l') (second : l'.Alike l'') : l.Alike l'' :=
  ⟨first.chunks.trans second.chunks, first.size.trans second.size, first.labels.trans second.labels⟩

theorem runs_iff (alike : l.Alike l') (actions : List Action) :
    l.Runs actions ↔ l'.Runs actions := by
  rw [Listing.runs_iff, Listing.runs_iff]
  simp only [offset?, alike.labels]

theorem after (alike : l.Alike l') (actions : List Action) :
    (l.after actions).Alike (l'.after actions) := by
  induction actions generalizing l l' with
  | nil => exact alike
  | cons a actions ih =>
    -- What an action leaves depends on chunks, size and labels alone.
    refine @ih (l.extend a) (l'.extend a) ⟨?_, ?_, ?_⟩
    · rw [chunks_extend, chunks_extend, alike.chunks]
    · rw [size_extend, size_extend, alike.size]
    · rw [labels_extend, labels_extend, alike.size, alike.labels]

end Listing.Alike

namespace Listing

theorem after_append (l : Listing) (earlier later : List Action) :
    l.after (earlier ++ later) = (l.after earlier).after later := List.foldl_append

theorem runs_append (l : Listing) (earlier later : List Action) :
    l.Runs (earlier ++ later) ↔ l.Runs earlier ∧ (l.after earlier).Runs later := by
  induction earlier generalizing l with
  | nil => exact ⟨fun runs => ⟨trivial, runs⟩, fun runs => runs.2⟩
  | cons a earlier ih =>
    change l.fault? a = none ∧ (l.extend a).Runs (earlier ++ later) ↔ _
    rw [ih, ← and_assoc]
    rfl

end Listing

/-- What a module with these items asks for, under its name. -/
def Module.request (m : Module) (items : List Item) : String × List Action :=
  (m.name, items.map Item.action)

namespace FirstPass

/-- Takes in the actions of a module, as `process` does with those of its items. -/
def processActions (m : String × List Action) : FirstPass Unit := do
  modify fun l => { l.note (.processing m.1) with moduleName := m.1 }
  m.2.forM perform

def processAllActions (modules : List (String × List Action)) : FirstPass Unit :=
  modules.forM processActions

theorem processActions_eq (m : String × List Action) (l : Listing) :
    ∃ l', l'.Alike l ∧ processActions m l = m.2.forM perform l' :=
  ⟨{ l.note (.processing m.1) with moduleName := m.1 }, ⟨rfl, rfl, rfl⟩, rfl⟩

theorem processAllActions_cons_apply (m : String × List Action)
    (modules : List (String × List Action)) (l : Listing) :
    processAllActions (m :: modules) l =
      match processActions m l with
      | .ok () l' => processAllActions modules l'
      | .error e l' => .error e l' := by
  change (processActions m >>= fun _ => processAllActions modules) l = _
  rw [bind_apply]
  cases processActions m l <;> rfl

/-- Modules either run through, as their actions would in a single row, or fail with the fault of an
    action. -/
theorem processAllActions_cases (modules : List (String × List Action)) (l : Listing) :
    (l.Runs (modules.flatMap Prod.snd) ∧
      ∃ l', processAllActions modules l = .ok () l' ∧
        l'.Alike (l.after (modules.flatMap Prod.snd))) ∨
      ¬ l.Runs (modules.flatMap Prod.snd) ∧
        ∃ e l', processAllActions modules l = .error e l' ∧
          ∃ a ∈ modules.flatMap Prod.snd, ∃ before : Listing, before.fault? a = some e := by
  induction modules generalizing l with
  | nil => exact .inl ⟨trivial, l, rfl, .refl l⟩
  | cons m modules ih =>
    obtain ⟨l₁, alike, processed⟩ := processActions_eq m l
    rw [List.flatMap_cons, Listing.runs_append, processAllActions_cons_apply, processed,
      Listing.after_append]
    obtain runs | ⟨earlier, a, later, e, split, runs, fault⟩ := l₁.runs_or_fault m.2
    · have alikeAfter := alike.after m.2
      rw [forM_of_runs l₁ m.2 runs]
      obtain ⟨runsLater, l', done, alikeLater⟩ | ⟨stuck, e, l', failed, a, mem, fault⟩ :=
        ih (l₁.after m.2)
      · left
        refine ⟨⟨(alike.runs_iff _).mp runs, (alikeAfter.runs_iff _).mp runsLater⟩, l', done, ?_⟩
        exact alikeLater.trans (alikeAfter.after _)
      · right
        refine ⟨fun both => stuck ((alikeAfter.runs_iff _).mpr both.2), e, l', failed, a, ?_, fault⟩
        exact List.mem_append_right _ mem
    · right
      rw [split, forM_of_fault l₁ earlier later a e runs fault]
      refine ⟨fun both => ?_, e, _, rfl, a, ?_, _, fault⟩
      · have whole := (alike.runs_iff _).mpr both.1
        rw [Listing.runs_append] at whole
        have passes := whole.2.1
        rw [fault] at passes
        cases passes
      · exact List.mem_append_left _ (List.mem_append_right _ List.mem_cons_self)

theorem forM_items (items : List Item) (l : Listing) :
    items.forM (fun item => perform item.action) l = (items.map Item.action).forM perform l := by
  induction items generalizing l with
  | nil => rfl
  | cons item items ih =>
    change (perform item.action >>= fun _ => items.forM fun item => perform item.action) l = _
    rw [List.map_cons, forM_cons_apply, bind_apply, perform_eq]
    cases l.fault? item.action with
    | some e => rfl
    | none => exact ih (l.extend item.action)

theorem processAll_cons_apply (m : Module) (modules : List Module) (l : Listing) :
    processAll (m :: modules) l =
      match process m l with
      | .ok () l' => processAll modules l'
      | .error e l' => .error e l' := by
  change (process m >>= fun _ => processAll modules) l = _
  rw [bind_apply]
  cases process m l <;> rfl

theorem process_eq_processActions (m : Module) (items : List Item) (read : m.items = .ok items)
    (l : Listing) : process m l = processActions (m.request items) l := by
  change (modify _ >>= fun _ => _ : FirstPass Unit) l = (modify _ >>= fun _ => _ : FirstPass Unit) l
  rw [bind_apply, bind_apply, read]
  exact forM_items items _

/-- Taking in a module is taking in its items. -/
theorem process_eq (m : Module) (items : List Item) (read : m.items = .ok items) (l : Listing) :
    ∃ l', l'.Alike l ∧ process m l = (items.map Item.action).forM perform l' := by
  rw [process_eq_processActions m items read]
  exact processActions_eq (m.request items) l

/-- Modules that have been read are taken in as their actions. -/
theorem processAll_eq (modules : List Module) (items : List (List Item))
    (read : List.Forall₂ (fun m items => m.items = .ok items) modules items) (l : Listing) :
    processAll modules l = processAllActions (List.zipWith Module.request modules items) l := by
  induction read generalizing l with
  | nil => rfl
  | @cons m first modules others readFirst _ ih =>
    rw [List.zipWith_cons_cons, processAll_cons_apply, processAllActions_cons_apply,
      process_eq_processActions m first readFirst]
    cases processActions (m.request first) l with
    | ok _ l' => exact ih l'
    | error e l' => rfl

theorem flatMap_request {modules : List Module} {items : List (List Item)}
    (read : List.Forall₂ (fun m items => m.items = .ok items) modules items) :
    (List.zipWith Module.request modules items).flatMap Prod.snd =
      items.flatten.map Item.action := by
  induction read with
  | nil => rfl
  | cons _ _ ih =>
    rw [List.zipWith_cons_cons, List.flatMap_cons, ih, List.flatten_cons, List.map_append]
    rfl

/-- Modules run through if their items do, one after the other. -/
theorem processAll_of_runs (modules : List Module) (items : List (List Item))
    (read : List.Forall₂ (fun m items => m.items = .ok items) modules items) (l : Listing)
    (runs : l.Runs (items.flatten.map Item.action)) :
    ∃ l', processAll modules l = .ok () l' ∧
      l'.Alike (l.after (items.flatten.map Item.action)) := by
  rw [processAll_eq modules items read]
  have outcome := processAllActions_cases (List.zipWith Module.request modules items) l
  rw [flatMap_request read] at outcome
  obtain ⟨_, done⟩ | ⟨stuck, _⟩ := outcome
  · exact done
  · exact absurd runs stuck

/-- If the items of modules do not run through, it is because one of them fails. -/
theorem processAll_of_not_runs (modules : List Module) (items : List (List Item))
    (read : List.Forall₂ (fun m items => m.items = .ok items) modules items) (l : Listing)
    (stuck : ¬ l.Runs (items.flatten.map Item.action)) :
    ∃ e l', processAll modules l = .error e l' ∧
      ∃ item ∈ items.flatten, ∃ before : Listing, before.fault? item.action = some e := by
  rw [processAll_eq modules items read]
  have outcome := processAllActions_cases (List.zipWith Module.request modules items) l
  rw [flatMap_request read] at outcome
  obtain ⟨runs, _⟩ | ⟨_, e, l', failed, a, mem, fault⟩ := outcome
  · exact absurd runs stuck
  · obtain ⟨item, itemMem, rfl⟩ := List.mem_map.mp mem
    exact ⟨e, l', failed, item, itemMem, fault⟩

end FirstPass

end ChipEight.Assembly
