import ChipEight.Proofs.Assembly.Errors

/-!
# The books of the first pass

An action that fails leaves the listing as it was, so whoever drives the first pass may go on with
it. Whatever was attempted and whatever of it failed, the books are right: the size of a listing is
that of its chunks (`Listing.Balanced`), and a label has the size that the listing had when it was
defined for the first time (`Listing.offset?_attemptAll_iff`). An action fails exactly for a reason
of its own (`Listing.fault?_eq_none_iff_not_refuses`).
-/

namespace ChipEight.Assembly

namespace Listing

/-- What an action leaves, whether or not it fails. -/
def attempt (l : Listing) (a : Action) : Listing :=
  match FirstPass.perform a l with
  | .ok _ l' | .error _ l' => l'

/-- What actions leave if each is attempted, whatever becomes of the ones in front of it. -/
def attemptAll (l : Listing) (actions : List Action) : Listing := actions.foldl attempt l

/-- The reasons to refuse an action: a number that does not fit into its place, a label that has been
    defined before, or a command that is not known. -/
inductive Refuses (l : Listing) : Action → Prop
  | outside {a : Action} {operand : Field × Int} (mem : operand ∈ a.operands)
      (outside : ¬ (0 ≤ operand.2 ∧ operand.2 < operand.1.limit)) : Refuses l a
  | duplicate {name : String} {offset : Nat} (defined : l.offset? name = some offset) :
      Refuses l (.label name)
  | unknown (text : String) : Refuses l (.unknown text)

/-- Whether the size of a listing is that of its chunks, and no label lies behind it. -/
structure Balanced (l : Listing) : Prop where
  size : l.size = (l.chunks.toList.map Chunk.size).sum
  labels : ∀ name offset, l.offset? name = some offset → offset ≤ l.size

/-! ## Single actions -/

theorem attempt_of_fault {l : Listing} {a : Action} {e : Error} (fault : l.fault? a = some e) :
    l.attempt a = l := by
  rw [attempt, FirstPass.perform_eq, fault]

theorem attempt_of_passes {l : Listing} {a : Action} (passes : l.fault? a = none) :
    l.attempt a = l.extend a := by
  rw [attempt, FirstPass.perform_eq, passes]

theorem fault?_label (l : Listing) (name : String) :
    l.fault? (.label name) =
      if (l.offset? name).isSome then some (.duplicateLabel name) else none := rfl

/-- A label that is defined keeps its offset, and a new one is defined at the size so far. -/
theorem offset?_attempt (l : Listing) (a : Action) (name : String) :
    (l.attempt a).offset? name =
      (l.offset? name).or (if a = .label name then some l.size else none) := by
  cases fault : l.fault? a with
  | some e =>
    rw [attempt_of_fault fault]
    split
    · next same =>
      subst same
      rw [fault?_label] at fault
      split at fault
      · next defined =>
        obtain ⟨offset, known⟩ := Option.isSome_iff_exists.mp defined
        rw [known, Option.some_or]
      · cases fault
    · rw [Option.or_none]
  | none =>
    rw [attempt_of_passes fault, offset?_extend]
    by_cases same : a = .label name
    · have new := ((l.fault?_eq_none_iff a).mp fault).2 name (Action.label?_eq_some_iff.mpr same)
      rw [if_pos (Action.label?_eq_some_iff.mpr same), if_pos same, new, Option.none_or]
    · rw [if_neg (mt Action.label?_eq_some_iff.mp same), if_neg same, Option.or_none]

theorem balanced_empty : ({} : Listing).Balanced where
  size := rfl
  labels := by
    intro name offset found
    cases (show none = some offset from found)

theorem Balanced.attempt {l : Listing} (h : l.Balanced) (a : Action) : (l.attempt a).Balanced := by
  cases fault : l.fault? a with
  | some e => rwa [attempt_of_fault fault]
  | none =>
    rw [attempt_of_passes fault]
    refine ⟨?_, fun name offset found => ?_⟩
    · rw [size_extend, chunks_extend, List.map_append, List.sum_append, ← h.size, Action.size]
    · rw [offset?_extend] at found
      rw [size_extend]
      split at found
      · obtain rfl := Option.some.inj found
        exact Nat.le_add_right _ _
      · exact Nat.le_trans (h.labels name offset found) (Nat.le_add_right _ _)

/-- An action that makes no word of too many bits fails exactly if there is a reason to refuse it. -/
theorem fault?_eq_none_iff_not_refuses (l : Listing) (a : Action) (word : a.HasWord) :
    l.fault? a = none ↔ ¬ l.Refuses a := by
  rw [fault?_eq_none_iff, passes_iff a word]
  constructor
  · rintro ⟨⟨known, inside⟩, new⟩ refused
    cases refused with
    | outside mem outside => exact outside ((not_isOutside_iff _).mp (inside _ mem))
    | @duplicate name offset defined =>
      rw [new name rfl] at defined
      cases defined
    | unknown text => exact known text rfl
  · intro accepted
    refine ⟨⟨?_, fun operand mem => ?_⟩, fun name defines => ?_⟩
    · rintro text rfl
      exact accepted (.unknown text)
    · rw [not_isOutside_iff]
      exact Decidable.not_not.mp fun outside => accepted (.outside mem outside)
    · obtain rfl := Action.label?_eq_some_iff.mp defines
      rw [Option.eq_none_iff_forall_ne_some]
      exact fun offset defined => accepted (.duplicate defined)

/-- The error of an action is about the program if its numbers are short enough for a message. -/
theorem isOwn_of_writable {l : Listing} {a : Action} {e : Error} (word : a.HasWord)
    (writable : ∀ operand ∈ a.operands, Decimal.isWritable operand.2)
    (fault : l.fault? a = some e) : e.isOwn := by
  obtain own | ⟨_, operand, outside, notWritable⟩ := isOwn_of_action l a word e fault
  · exact own
  · rw [writable operand (List.mem_of_find?_eq_some outside)] at notWritable
    cases notWritable

/-! ## Rows of actions -/

theorem attemptAll_cons (l : Listing) (a : Action) (actions : List Action) :
    l.attemptAll (a :: actions) = (l.attempt a).attemptAll actions := rfl

theorem attemptAll_append (l : Listing) (earlier later : List Action) :
    l.attemptAll (earlier ++ later) = (l.attemptAll earlier).attemptAll later := List.foldl_append

theorem Balanced.attemptAll {l : Listing} (h : l.Balanced) (actions : List Action) :
    (l.attemptAll actions).Balanced := by
  induction actions generalizing l with
  | nil => exact h
  | cons a actions ih => exact ih (h.attempt a)

/-- A label that is defined keeps its offset. -/
theorem offset?_attemptAll_of_some {l : Listing} {name : String} {offset : Nat}
    (known : l.offset? name = some offset) (actions : List Action) :
    (l.attemptAll actions).offset? name = some offset := by
  induction actions generalizing l with
  | nil => exact known
  | cons a actions ih => exact ih (by rw [offset?_attempt, known, Option.some_or])

/-- A label that is new, and defined later, is defined by the first action that does so. -/
theorem exists_definition {l : Listing} {actions : List Action} {name : String} {offset : Nat}
    (new : l.offset? name = none) (found : (l.attemptAll actions).offset? name = some offset) :
    ∃ earlier later, actions = earlier ++ .label name :: later ∧
      (l.attemptAll earlier).offset? name = none ∧ offset = (l.attemptAll earlier).size := by
  induction actions generalizing l with
  | nil =>
    rw [show (l.attemptAll []).offset? name = none from new] at found
    cases found
  | cons a actions ih =>
    rw [attemptAll_cons] at found
    have next := l.offset?_attempt a name
    rw [new, Option.none_or] at next
    by_cases defines : a = .label name
    · rw [if_pos defines] at next
      rw [offset?_attemptAll_of_some next] at found
      obtain rfl := Option.some.inj found
      exact ⟨[], actions, congrArg (· :: actions) defines, new, rfl⟩
    · rw [if_neg defines] at next
      obtain ⟨earlier, later, rfl, isNew, size⟩ := ih next found
      exact ⟨a :: earlier, later, rfl, isNew, size⟩

/-- A label has the size that the listing had when it was defined for the first time. -/
theorem offset?_attemptAll_iff {l : Listing} {actions : List Action} {name : String} {offset : Nat}
    (new : l.offset? name = none) :
    (l.attemptAll actions).offset? name = some offset ↔
      ∃ earlier later, actions = earlier ++ .label name :: later ∧
        (l.attemptAll earlier).offset? name = none ∧ offset = (l.attemptAll earlier).size := by
  refine ⟨exists_definition new, ?_⟩
  rintro ⟨earlier, later, rfl, isNew, rfl⟩
  rw [attemptAll_append, attemptAll_cons]
  apply offset?_attemptAll_of_some
  rw [offset?_attempt, isNew, if_pos rfl, Option.none_or]

/-- Whatever actions are attempted in the first pass, and whatever of them fails: the size of the
    listing is the sum of the sizes of its chunks, of which a reference has two bytes; a label has the
    size that the listing had when the label was defined, which is no more than its size now, and
    keeps it from then on; and an action fails exactly if a number of it does not fit into its place,
    if it defines a label once more, or if it is unknown. Its error is then about the program, and
    nothing of the listing has changed. -/
theorem books_after_attempts (actions : List Action) :
    let l := ({} : Listing).attemptAll actions
    l.size = (l.chunks.toList.map Chunk.size).sum ∧
      (∀ name offset, l.offset? name = some offset ↔
        ∃ earlier later, actions = earlier ++ .label name :: later ∧
          (({} : Listing).attemptAll earlier).offset? name = none ∧
          offset = (({} : Listing).attemptAll earlier).size) ∧
      (∀ name offset, l.offset? name = some offset →
        offset ≤ l.size ∧ ∀ more, (l.attemptAll more).offset? name = some offset) ∧
      ∀ a : Action, a.HasWord →
        (∀ operand ∈ a.operands, operand.2.natAbs < Decimal.tenTo 4000) →
          ((∃ e l', FirstPass.perform a l = .error e l') ↔ l.Refuses a) ∧
            ∀ e l', FirstPass.perform a l = .error e l' → e.isOwn ∧ l' = l := by
  intro l
  have balanced : l.Balanced := balanced_empty.attemptAll actions
  refine ⟨balanced.size, fun name offset => offset?_attemptAll_iff rfl,
    fun name offset known => ⟨balanced.labels name offset known,
      offset?_attemptAll_of_some known⟩, fun a word bounded => ?_⟩
  have accepted := l.fault?_eq_none_iff_not_refuses a word
  rw [FirstPass.perform_eq]
  cases fault : l.fault? a with
  | none =>
    rw [fault] at accepted
    refine ⟨iff_of_false ?_ (accepted.mp rfl), ?_⟩
    · rintro ⟨e, l', failed⟩
      cases failed
    · intro e l' failed
      cases failed
  | some e =>
    rw [fault] at accepted
    have refused : l.Refuses a := by
      by_contra free
      cases accepted.mpr free
    have writable : ∀ operand ∈ a.operands, Decimal.isWritable operand.2 := fun operand mem =>
      Decimal.isWritable_of_lt (bounded operand mem) (by decide)
    refine ⟨iff_of_true ⟨e, l, rfl⟩ refused, ?_⟩
    intro e' l' failed
    obtain ⟨rfl, rfl⟩ := EStateM.Result.error.inj failed
    exact ⟨isOwn_of_writable word writable fault, rfl⟩

/-- A label defined twice and an unknown command in between, and then data of which the number in the
    middle is no byte. -/
theorem books_after_attempts_data :
    let actions : List Action :=
      [.label "a", .reference 0x1000 "b", .label "a", .unknown "?", .data [1, 2, 3], .label "b"]
    let l := ({} : Listing).attemptAll actions
    let a : Action := .data [1, 300, 2]
    l.size = 5 ∧ l.offset? "a" = some 0 ∧ l.offset? "b" = some 5 ∧
      (l.attemptAll [.data [4], .label "b"]).offset? "b" = some 5 ∧ a.HasWord ∧
      (∀ operand ∈ a.operands, operand.2.natAbs < Decimal.tenTo 4000) ∧ l.Refuses a ∧
      ∃ e, FirstPass.perform a l = .error e l ∧ e.isOwn := by
  intro actions l a
  obtain ⟨-, -, kept, attempted⟩ := books_after_attempts actions
  have known : l.offset? "b" = some 5 := rfl
  have small : Decimal.tenTo 3 ≤ Decimal.tenTo 4000 := Decimal.tenTo_mono (by decide)
  have inside : ∀ operand ∈ a.operands, operand.2.natAbs < Decimal.tenTo 3 := by decide
  have bounded : ∀ operand ∈ a.operands, operand.2.natAbs < Decimal.tenTo 4000 :=
    fun operand mem => Nat.lt_of_lt_of_le (inside operand mem) small
  have refused : l.Refuses a :=
    .outside (show (Field.byte, (300 : Int)) ∈ a.operands by decide) (by decide)
  obtain ⟨fails, unchanged⟩ := attempted a trivial bounded
  obtain ⟨e, l', failed⟩ := fails.mpr refused
  obtain ⟨own, rfl⟩ := unchanged e l' failed
  exact ⟨rfl, rfl, known, (kept "b" 5 known).2 _, trivial, bounded, refused, e, failed, own⟩

end Listing

end ChipEight.Assembly
