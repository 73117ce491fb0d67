import ChipEight.Proofs.Assembly.Linking

/-!
# The errors of a text

Texts fail with errors about the program, with one exception: a number may have too many digits to
be read at all, or for the message that it is out of range. `assembleText_eq_numberTooLong_iff` says
when that happens.
-/

namespace ChipEight.Assembly

open Reference

/-- Where an action fails, that is about the program, unless its first number out of range is too
    long for a message. -/
theorem isOwn_of_action (l : Listing) (a : Action) (word : a.HasWord) (e : Error)
    (fault : l.fault? a = some e) :
    e.isOwn ∨ e = .numberTooLong ∧
      ∃ operand, a.operands.find? isOutside = some operand ∧
        Decimal.isWritable operand.2 = false := by
  cases outside : a.operands.find? isOutside with
  | some operand =>
    have isError : outsideError operand = e := by
      simp only [Listing.fault?, outside] at fault
      exact Option.some.inj fault
    rw [← isError, outsideError]
    cases writable : Decimal.isWritable operand.2 with
    | true => exact .inl rfl
    | false => exact .inr ⟨rfl, operand, rfl, writable⟩
  | none =>
    left
    have inside := List.find?_eq_none.mp outside
    cases a with
    | label name =>
      have duplicate : (if (l.offset? name).isSome then some (.duplicateLabel name) else none) =
          some e := fault
      split at duplicate
      · obtain rfl := Option.some.inj duplicate
        rfl
      · cases duplicate
    | unknown text =>
      obtain rfl := Option.some.inj fault
      rfl
    | word t operands =>
      -- Operands in range always have a word.
      have passes := (passes_iff _ word).mpr ⟨by simp, inside⟩
      rw [(l.fault?_eq_none_iff _).mpr ⟨passes, by simp [Action.label?]⟩] at fault
      cases fault
    | data values =>
      rw [(l.fault?_eq_none_iff _).mpr ⟨⟨outside, trivial⟩, by simp [Action.label?]⟩] at fault
      cases fault
    | reference _ _ | bytes _ => cases fault

theorem isOwn_of_fault? (l : Listing) (item : Item) (e : Error)
    (fault : l.fault? item.action = some e) :
    e.isOwn ∨ e = .numberTooLong ∧
      ∃ operand, item.action.operands.find? isOutside = some operand ∧
        Decimal.isWritable operand.2 = false :=
  isOwn_of_action l item.action (hasTemplate_action item).hasWord e fault

/-- Whether a number stands among items that has too many digits to be read, or whether the first
    thing wrong with them is a number out of range with too many digits for a message. -/
def TooLong (items : List Item) : Prop :=
  (∃ item ∈ items, ∃ literal ∈ item.literals, literal.isReadable = false) ∨
    ∃ earlier item later operand,
      items = earlier ++ item :: later ∧ ({} : Listing).Runs (earlier.map Item.action) ∧
        item.action.operands.find? isOutside = some operand ∧ Decimal.isWritable operand.2 = false

/-- The items of a text. -/
def itemsOf (text : String) : List Item := Item.ofText (Text.Tabs.expand text.toList)

/-- A module is read unless one of its numbers has too many digits. -/
theorem items_cases (m : Module) :
    (m.items = .ok (itemsOf m.text) ∧ ∀ item ∈ itemsOf m.text, ∀ literal ∈ item.literals,
    literal.isReadable) ∨
      m.items = .error .numberTooLong ∧
        ∃ item ∈ itemsOf m.text, ∃ literal ∈ item.literals, literal.isReadable = false := by
  by_cases all : (itemsOf m.text).all fun item => item.literals.all Literal.isReadable
  · left
    refine ⟨if_pos all, ?_⟩
    simpa only [List.all_eq_true] using all
  · right
    refine ⟨if_neg all, ?_⟩
    simpa using all

theorem items_of_readable (m : Module)
    (readable : ∀ item ∈ itemsOf m.text, ∀ literal ∈ item.literals, literal.isReadable) :
    m.items = .ok (itemsOf m.text) := by
  obtain ⟨read, _⟩ | ⟨_, item, itemMem, literal, mem, tooLong⟩ := items_cases m
  · exact read
  · rw [readable item itemMem literal mem] at tooLong
    cases tooLong

theorem runs_or_fault_items (l : Listing) (items : List Item) :
    l.Runs (items.map Item.action) ∨
      ∃ earlier item later e,
        items = earlier ++ item :: later ∧ l.Runs (earlier.map Item.action) ∧
          (l.after (earlier.map Item.action)).fault? item.action = some e := by
  obtain runs | ⟨earlier, a, later, e, split, runs, fault⟩ :=
    l.runs_or_fault (items.map Item.action)
  · exact .inl runs
  · obtain ⟨before, rest, rfl, rfl, restMap⟩ := List.map_eq_append_iff.mp split
    obtain ⟨item, after, rfl, rfl, _⟩ := List.map_eq_cons_iff.mp restMap
    exact .inr ⟨before, item, after, e, rfl, runs, fault⟩

theorem process_of_items_error (m : Module) (e : Error) (failed : m.items = .error e)
    (l : Listing) :
    ∃ l', FirstPass.process m l = .error e l' := by
  refine ⟨{ l.note (.processing m.name) with moduleName := m.name }, ?_⟩
  change (modify _ >>= fun _ => _ : FirstPass Unit) l = _
  rw [bind_apply, failed]
  rfl

/-- A module that cannot be read ends the first pass. -/
theorem read_of_processAll (modules : List Module) (l l' : Listing)
    (done : FirstPass.processAll modules l = .ok () l') :
    ∀ m ∈ modules, m.items = .ok (itemsOf m.text) := by
  induction modules generalizing l with
  | nil => exact List.forall_mem_nil _
  | cons m modules ih =>
    rw [FirstPass.processAll_cons_apply] at done
    obtain ⟨read, _⟩ | ⟨unread, _⟩ := items_cases m
    · cases processed : FirstPass.process m l with
      | error e l₁ =>
        rw [processed] at done
        cases done
      | ok _ l₁ =>
        rw [processed] at done
        exact List.forall_mem_cons.mpr ⟨read, ih l₁ done⟩
    · obtain ⟨l₁, failed⟩ := process_of_items_error m _ unread l
      rw [failed] at done
      cases done

theorem forall₂_of_read {modules : List Module}
    (read : ∀ m ∈ modules, m.items = .ok (itemsOf m.text)) :
    List.Forall₂ (fun m items => m.items = .ok items) modules
      (modules.map fun m => itemsOf m.text) :=
  List.forall₂_map_right_iff.mpr (List.forall₂_same.mpr read)

/-- The first pass fails with errors about the program, unless a number is too long. -/
theorem isOwn_of_processAll (modules : List Module) (l l' : Listing) (e : Error)
    (failed : FirstPass.processAll modules l = .error e l') : e.isOwn ∨ e = .numberTooLong := by
  induction modules generalizing l with
  | nil => cases failed
  | cons m modules ih =>
    rw [FirstPass.processAll_cons_apply] at failed
    obtain ⟨read, _⟩ | ⟨unread, _⟩ := items_cases m
    · obtain ⟨l₁, _, processed⟩ := FirstPass.process_eq m (itemsOf m.text) read l
      rw [processed] at failed
      obtain runs | ⟨earlier, item, later, e', split, runs, fault⟩ :=
        runs_or_fault_items l₁ (itemsOf m.text)
      · rw [FirstPass.forM_of_runs l₁ _ runs] at failed
        exact ih _ failed
      · rw [split, List.map_append, List.map_cons,
          FirstPass.forM_of_fault l₁ _ _ _ e' runs fault] at failed
        obtain ⟨rfl, _⟩ := EStateM.Result.error.inj failed
        exact (isOwn_of_fault? _ item _ fault).imp_right And.left
    · obtain ⟨l₁, stops⟩ := process_of_items_error m _ unread l
      rw [stops] at failed
      obtain ⟨rfl, _⟩ := EStateM.Result.error.inj failed
      exact .inr rfl

/-- So does assembly as a whole. -/
theorem isOwn_of_assemble (modules : List Module) (e : Error)
    (failed : assemble modules = .error e) : e.isOwn ∨ e = .numberTooLong := by
  cases processed : FirstPass.processAll modules {} with
  | error e' l =>
    rw [assemble_apply, processed] at failed
    obtain rfl := Except.error.inj failed
    exact isOwn_of_processAll modules {} l _ processed
  | ok _ l =>
    have read := forall₂_of_read (read_of_processAll modules {} l processed)
    cases found : assemble? (modules.map fun m => itemsOf m.text).flatten with
    | some program =>
      rw [assemble_of_some modules _ read program found] at failed
      cases failed
    | none =>
      obtain ⟨_, same, kind⟩ := assemble_of_none modules _ read found
      rw [failed] at same
      obtain rfl := Except.error.inj same
      obtain own | ⟨item, _, before, fault⟩ := kind
      · exact .inl own
      · exact (isOwn_of_fault? before item e fault).imp_right And.left

/-- What becomes of a text that has been read, said with the reference. -/
theorem assembleText_of_items (text : String)
    (read : ({ text } : Module).items = .ok (itemsOf text)) :
    match assemble? (itemsOf text) with
    | some program => assembleText text = .ok program
    | none =>
      ∃ e, assembleText text = .error e ∧
        (e.isOwn ∨ ∃ item ∈ itemsOf text, ∃ before : Listing,
        before.fault? item.action = some e) := by
  have reads : List.Forall₂ (fun (m : Module) items => m.items = .ok items) [{ text }]
      [itemsOf text] := .cons read .nil
  have flat : [itemsOf text].flatten = itemsOf text := by simp
  cases found : assemble? (itemsOf text) with
  | some program => exact assemble_of_some _ _ reads program (by rw [flat, found])
  | none =>
    have failed := assemble_of_none _ _ reads (by rw [flat, found])
    rwa [flat] at failed

theorem assembleText_of_unread (text : String)
    (failed : ({ text } : Module).items = .error .numberTooLong) :
    assembleText text = .error .numberTooLong := by
  obtain ⟨l, stops⟩ := process_of_items_error { text } _ failed {}
  rw [assembleText, assemble_apply, FirstPass.processAll_cons_apply, stops]

/-- A text that has been read is assembled in two passes over its items. -/
theorem assembleText_of_read (text : String)
    (read : ({ text } : Module).items = .ok (itemsOf text)) :
    ∃ l : Listing, l.Alike {} ∧
      assembleText text =
        match ((itemsOf text).map Item.action).forM FirstPass.perform l with
        | .ok () l => l.link
        | .error e _ => .error e := by
  obtain ⟨l, alike, processed⟩ := FirstPass.process_eq { text } (itemsOf text) read {}
  refine ⟨l, alike, ?_⟩
  rw [assembleText, assemble_apply, FirstPass.processAll_cons_apply, processed]
  cases ((itemsOf text).map Item.action).forM FirstPass.perform l <;> rfl

/-- A text fails with a number that is too long exactly if its items say so. -/
theorem assembleText_eq_numberTooLong_iff (text : String) :
    assembleText text = .error .numberTooLong ↔ TooLong (itemsOf text) := by
  obtain ⟨read, readable⟩ | ⟨unread, unreadable⟩ := items_cases { text }
  · obtain ⟨l, alike, assembled⟩ := assembleText_of_read text read
    rw [assembled]
    constructor
    · intro failed
      obtain runs | ⟨earlier, item, later, e, split, runs, fault⟩ :=
        runs_or_fault_items l (itemsOf text)
      · -- If the items run through, then linking fails, and that is never about the length of a
        -- number.
        exfalso
        obtain ⟨passes, distinct⟩ := (runs_iff_items _).mp ((alike.runs_iff _).mp runs)
        have linked := link_eq (itemsOf text) passes distinct _ (alike.after _)
        rw [FirstPass.forM_of_runs l _ runs] at failed
        change Listing.link _ = _ at failed
        rw [failed] at linked
        cases found : assemble? (itemsOf text) with
        | some program =>
          rw [found] at linked
          cases linked
        | none =>
          rw [found] at linked
          obtain ⟨e, same, own⟩ := linked
          obtain rfl := Except.error.inj same
          cases own
      · -- The first fault is what the text fails with.
        rw [split, List.map_append, List.map_cons,
          FirstPass.forM_of_fault l _ _ _ e runs fault] at failed
        obtain rfl := Except.error.inj failed
        obtain own | ⟨_, operand, outside, notWritable⟩ := isOwn_of_fault? _ item _ fault
        · cases own
        · exact .inr ⟨earlier, item, later, operand, split, (alike.runs_iff _).mp runs, outside,
            notWritable⟩
    · rintro (⟨item, itemMem, literal, mem, tooLong⟩ | ⟨earlier, item, later, operand, split, runs,
        outside, notWritable⟩)
      · have short := readable item itemMem literal mem
        rw [tooLong] at short
        cases short
      · have fault : (l.after (earlier.map Item.action)).fault? item.action = some .numberTooLong :=
          by
          simp only [Listing.fault?, outside, outsideError, notWritable]
          rfl
        rw [split, List.map_append, List.map_cons]
        rw [FirstPass.forM_of_fault l _ _ _ _ ((alike.runs_iff _).mpr runs) fault]
  · exact iff_of_true (assembleText_of_unread text unread) (.inl unreadable)

/-- Apart from that, errors are about the program. -/
theorem isOwn_of_assembleText (text : String) (e : Error) (failed : assembleText text = .error e) :
    e.isOwn ∨ e = .numberTooLong :=
  isOwn_of_assemble [{ text }] e failed

/-- A text that is assembled has a program in the reference. -/
theorem assemble?_of_assembleText (text : String) (program : List UInt8)
    (assembled : assembleText text = .ok program) :
    assemble? (itemsOf text) = some program := by
  obtain ⟨read, _⟩ | ⟨unread, _⟩ := items_cases { text }
  · have outcome := assembleText_of_items text read
    cases found : assemble? (itemsOf text) with
    | some other =>
      rw [found, assembled] at outcome
      rw [Except.ok.inj outcome]
    | none =>
      rw [found, assembled] at outcome
      obtain ⟨_, failed, _⟩ := outcome
      cases failed
  · rw [assembleText_of_unread text unread] at assembled
    cases assembled

theorem readable_of_assembleText (text : String) (program : List UInt8)
    (assembled : assembleText text = .ok program) :
    ∀ item ∈ itemsOf text, ∀ literal ∈ item.literals, literal.isReadable := by
  obtain ⟨_, readable⟩ | ⟨unread, _⟩ := items_cases { text }
  · exact readable
  · rw [assembleText_of_unread text unread] at assembled
    cases assembled

/-- A text that can be read is assembled to the program that the reference makes of it. -/
theorem assembleText_of_assemble? (text : String) (program : List UInt8)
    (readable : ∀ item ∈ itemsOf text, ∀ literal ∈ item.literals, literal.isReadable)
    (found : assemble? (itemsOf text) = some program) : assembleText text = .ok program := by
  have outcome := assembleText_of_items text (items_of_readable { text } readable)
  rwa [found] at outcome

theorem known_of_assemble? {items : List Item} {program : List UInt8}
    (found : assemble? items = some program) (text : String) : Item.unknown text ∉ items := by
  intro mem
  obtain ⟨passes, _⟩ := (runs_iff_items items).mp (runs_of_assemble? items program found)
  exact (passes _ mem).2

/-- Errors are about the program exactly if no number is too long. -/
theorem isOwn_iff_of_assembleText (text : String) (e : Error)
    (failed : assembleText text = .error e) : e.isOwn ↔ ¬ TooLong (itemsOf text) := by
  have tooLong := assembleText_eq_numberTooLong_iff text
  rw [failed] at tooLong
  rw [← tooLong]
  obtain own | rfl := isOwn_of_assembleText text e failed
  · refine iff_of_true own ?_
    rintro same
    rw [Except.error.inj same] at own
    cases own
  · exact iff_of_false nofun (not_not_intro rfl)

/-- Whether a text fails, with an error about the program unless a number is too long. -/
def Fails (text : String) : Prop :=
  ∃ e, assembleText text = .error e ∧ (e.isOwn ↔ ¬ TooLong (itemsOf text))

/-- A text with an unknown item fails. -/
theorem fails_of_unknown {text unknown : String} (mem : .unknown unknown ∈ itemsOf text) :
    Fails text := by
  cases result : assembleText text with
  | ok program =>
    exact absurd mem (known_of_assemble? (assemble?_of_assembleText text program result) unknown)
  | error e => exact ⟨e, result, isOwn_iff_of_assembleText text e result⟩

/-- Texts with the same items have the same outcome. -/
theorem assembleText_congr {text text' : String} (same : itemsOf text = itemsOf text') :
    assembleText text = assembleText text' := by
  have items : ({ text } : Module).items = ({ text := text' } : Module).items :=
    congrArg (fun items : List Item =>
      if items.all fun item => item.literals.all Literal.isReadable then Except.ok items
      else Except.error Error.numberTooLong) same
  have processed : FirstPass.process { text } = FirstPass.process { text := text' } := by
    rw [FirstPass.process, items]
    rfl
  have all : FirstPass.processAll [{ text }] = FirstPass.processAll [{ text := text' }] :=
    congrArg (fun first => first >>= fun _ => pure ()) processed
  rw [assembleText, assembleText, assemble_apply, assemble_apply, all]

end ChipEight.Assembly
