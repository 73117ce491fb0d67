import ChipEight.Proofs.Assembly.Errors
import ChipEight.Proofs.Opcode

/-!
# Where items lie

A program is the bytes of its items one after the other, so the bytes of an item begin where those
of the items before it end. For modules that are assembled, `placed` takes their program apart at
any item, and `word_placed` finds the word of any operation; `label_placed` says that the address
of a label is where the bytes of the items behind it begin.
-/

namespace ChipEight.Assembly

open Reference

variable {labels : List (String × Nat)}

/-! ## Bytes of items -/

/-- The bytes that items come to, if the labels have these addresses. -/
def emitted? (labels : List (String × Nat)) (items : List Item) : Option (List UInt8) :=
  (items.mapM (bytes? labels)).map List.flatten

/-- The number of bytes that items come to. -/
def extent (items : List Item) : Nat := (items.map size).sum

theorem extent_cons (item : Item) (items : List Item) :
    extent (item :: items) = size item + extent items := List.sum_cons

theorem emitted?_cons (item : Item) (items : List Item) (bytes : List UInt8) :
    emitted? labels (item :: items) = some bytes ↔
      ∃ block rest, bytes? labels item = some block ∧ emitted? labels items = some rest ∧
        bytes = block ++ rest := by
  rw [emitted?, List.mapM_cons, emitted?]
  cases bytes? labels item with
  | none => simp
  | some block =>
    cases items.mapM (bytes? labels) with
    | none => simp
    | some blocks => simp [eq_comm]

theorem emitted?_append (earlier later : List Item) (bytes : List UInt8) :
    emitted? labels (earlier ++ later) = some bytes ↔
      ∃ before after, emitted? labels earlier = some before ∧ emitted? labels later = some after ∧
        bytes = before ++ after := by
  induction earlier generalizing bytes with
  | nil => simp [emitted?, eq_comm]
  | cons item earlier ih =>
    rw [List.cons_append, emitted?_cons]
    constructor
    · rintro ⟨block, rest, first, others, rfl⟩
      obtain ⟨before, after, found, foundThen, rfl⟩ := (ih rest).mp others
      refine ⟨block ++ before, after, ?_, foundThen, (List.append_assoc _ _ _).symm⟩
      exact (emitted?_cons item earlier _).mpr ⟨block, before, first, found, rfl⟩
    · rintro ⟨before, after, found, foundThen, rfl⟩
      obtain ⟨block, rest, first, others, rfl⟩ := (emitted?_cons item earlier _).mp found
      refine ⟨block, rest ++ after, first, (ih _).mpr ⟨rest, after, others, foundThen, rfl⟩, ?_⟩
      exact List.append_assoc _ _ _

theorem bytes?_operation (op : Operation Literal Literal Target) (block : List UInt8) :
    bytes? labels (.command (.operation op)) = some block ↔
      ∃ i, resolved? labels op = some i ∧ block = wordBytes i.word := by
  rw [bytes?, Option.bind_eq_bind, Option.bind_eq_some_iff]
  constructor
  · rintro ⟨i, resolved, same⟩
    exact ⟨i, resolved, by rw [wordBytes_eq]; exact (Option.some.inj same).symm⟩
  · rintro ⟨i, resolved, rfl⟩
    exact ⟨i, resolved, congrArg some (wordBytes_eq i.word).symm⟩

theorem length_of_bytes? (item : Item) (block : List UInt8)
    (found : bytes? labels item = some block) : block.length = size item := by
  cases item with
  | label name =>
    obtain rfl := Option.some.inj found
    rfl
  | unknown text => cases found
  | command command =>
    cases command with
    | operation op =>
      obtain ⟨i, _, rfl⟩ := (bytes?_operation op block).mp found
      rfl
    | data values =>
      obtain ⟨_, rfl⟩ := mapM_byte?_of_some values block found
      exact List.length_map _

theorem length_of_emitted? (items : List Item) (bytes : List UInt8)
    (found : emitted? labels items = some bytes) : bytes.length = extent items := by
  induction items generalizing bytes with
  | nil =>
    obtain rfl := Option.some.inj found
    rfl
  | cons item items ih =>
    obtain ⟨block, rest, first, others, rfl⟩ := (emitted?_cons item items bytes).mp found
    rw [List.length_append, length_of_bytes? item block first, ih rest others]
    exact (extent_cons item items).symm

theorem assemble?_eq_some_iff (items : List Item) (program : List UInt8) :
    assemble? items = some program ↔
      ((addresses Memory.romBase items).map Prod.fst).Nodup ∧
        emitted? (addresses Memory.romBase items) items = some program ∧
        program.length ≤ Memory.capacity - Memory.romBase := by
  rw [assemble?_eq, emitted?]
  by_cases distinct : ((addresses Memory.romBase items).map Prod.fst).Nodup
  · rw [if_pos distinct]
    cases items.mapM (bytes? (addresses Memory.romBase items)) with
    | none => simp
    | some blocks =>
      by_cases room : blocks.flatten.length ≤ Memory.capacity - Memory.romBase
      · simp only [if_pos room, Option.map_some, Option.some.injEq]
        constructor
        · rintro rfl
          exact ⟨distinct, rfl, room⟩
        · exact fun holds => holds.2.1
      · simp only [if_neg room, Option.map_some, Option.some.injEq, reduceCtorEq, false_iff]
        rintro ⟨_, rfl, fits⟩
        exact room fits
  · rw [if_neg distinct]
    simp [distinct]

/-! ## Addresses of labels -/

/-- The address of a label is that of the items behind it. -/
theorem exists_of_lookup_addresses (items : List Item) (base : Nat) (name : String) (address : Nat)
    (found : (addresses base items).lookup name = some address) :
    ∃ earlier later, items = earlier ++ .label name :: later ∧ address = base + extent earlier := by
  induction items generalizing base with
  | nil => cases found
  | cons item items ih =>
    have onwards (found : (addresses (base + size item) items).lookup name = some address) :
        ∃ earlier later, item :: items = earlier ++ .label name :: later ∧
          address = base + extent earlier := by
      obtain ⟨earlier, later, rfl, rfl⟩ := ih (base + size item) found
      refine ⟨item :: earlier, later, rfl, ?_⟩
      rw [extent_cons, Nat.add_assoc]
    cases item with
    | command command => exact onwards found
    | unknown text => exact onwards found
    | label other =>
      rw [addresses, List.lookup_cons] at found
      by_cases same : name = other
      · subst same
        rw [beq_self_eq_true] at found
        obtain rfl := Option.some.inj found
        exact ⟨[], items, rfl, rfl⟩
      · rw [beq_false_of_ne same] at found
        exact onwards found

/-! ## Modules -/

/-- The items of modules, in the order in which they are assembled. -/
def itemsOfAll (modules : List Module) : List Item := modules.flatMap fun m => itemsOf m.text

/-- Modules that are assembled have a program in the reference. -/
theorem assemble?_of_assemble (modules : List Module) (program : List UInt8)
    (assembled : assemble modules = .ok program) :
    assemble? (itemsOfAll modules) = some program := by
  have read : ∀ m ∈ modules, m.items = .ok (itemsOf m.text) := by
    rw [assemble_apply] at assembled
    cases processed : FirstPass.processAll modules {} with
    | error e l =>
      rw [processed] at assembled
      cases assembled
    | ok _ l => exact read_of_processAll modules {} l processed
  cases found : assemble? (itemsOfAll modules) with
  | some other =>
    have same := assemble_of_some modules _ (forall₂_of_read read) other found
    rw [assembled] at same
    rw [Except.ok.inj same]
  | none =>
    obtain ⟨e, failed, _⟩ := assemble_of_none modules _ (forall₂_of_read read) found
    rw [assembled] at failed
    cases failed

/-- Items that have bytes are assembled to them, unless these are too many. -/
theorem assemble_of_emitted (modules : List Module) (items : List (List Item))
    (read : List.Forall₂ (fun m items => m.items = .ok items) modules items)
    (distinct : ((addresses Memory.romBase items.flatten).map Prod.fst).Nodup) (bytes : List UInt8)
    (found : emitted? (addresses Memory.romBase items.flatten) items.flatten = some bytes) :
    assemble modules =
      if Memory.capacity - Memory.romBase < bytes.length then
        .error (.programTooLarge bytes.length)
      else .ok bytes := by
  obtain ⟨blocks, each, rfl⟩ := Option.map_eq_some_iff.mp found
  have passes := passes_of_mapM_bytes? _ items.flatten blocks each
  have runs := (runs_iff_items items.flatten).mpr ⟨passes, distinct⟩
  obtain ⟨l, processed, alike⟩ := FirstPass.processAll_of_runs modules items read {} runs
  rw [assemble_apply, processed]
  exact link_of_blocks items.flatten passes distinct l alike blocks each

theorem assembleText_of_emitted (text : String) (items : List Item)
    (read : ({ text } : Module).items = .ok items)
    (distinct : ((addresses Memory.romBase items).map Prod.fst).Nodup) (bytes : List UInt8)
    (found : emitted? (addresses Memory.romBase items) items = some bytes) :
    assembleText text =
      if Memory.capacity - Memory.romBase < bytes.length then
        .error (.programTooLarge bytes.length)
      else .ok bytes := by
  have flat : [items].flatten = items := by
    rw [List.flatten_cons, List.flatten_nil, List.append_nil]
  rw [← flat] at distinct found
  exact assemble_of_emitted [{ text }] [items] (.cons read .nil) distinct bytes found

/-! ## Places in a program -/

variable {items earlier later : List Item} {program : List UInt8}

/-- A program is the bytes of some items and of the others behind them. -/
theorem placed (found : assemble? items = some program) (split : items = earlier ++ later) :
    ∃ before after, emitted? (addresses Memory.romBase items) earlier = some before ∧
      emitted? (addresses Memory.romBase items) later = some after ∧
      program = before ++ after ∧ before.length = extent earlier := by
  obtain ⟨_, bytes, _⟩ := (assemble?_eq_some_iff items program).mp found
  rw [split] at bytes
  obtain ⟨before, after, foundBefore, foundAfter, rfl⟩ :=
    (emitted?_append earlier later program).mp bytes
  rw [← split] at foundBefore foundAfter
  exact ⟨before, after, foundBefore, foundAfter, rfl, length_of_emitted? earlier before foundBefore⟩

/-- The word of two bytes of a program, the high one first. -/
def wordAt (program : List UInt8) (offset : Nat) : Option Nat := do
  let high ← program[offset]?
  let low ← program[offset + 1]?
  return 0x100 * high.toNat + low.toNat

theorem wordAt_append (before after : List UInt8) (word : Nat) (bound : word < 0x10000) :
    wordAt (before ++ (wordBytes word ++ after)) before.length = some word := by
  have high : (before ++ (wordBytes word ++ after))[before.length]? =
      some (UInt8.ofNat (word / 0x100)) := by
    rw [List.getElem?_append_right (Nat.le_refl _), Nat.sub_self]
    rfl
  have low : (before ++ (wordBytes word ++ after))[before.length + 1]? =
      some (UInt8.ofNat word) := by
    rw [List.getElem?_append_right (Nat.le_add_right _ 1), Nat.add_sub_cancel_left]
    rfl
  rw [wordAt, high, low]
  simp only [Option.bind_eq_bind, Option.bind_some, Option.pure_def, Option.some.injEq,
    UInt8.toNat_ofNat']
  omega

/-- An operation of a text has an instruction, whose word lies behind the bytes of the items before
    it. -/
theorem word_placed {op : Operation Literal Literal Target}
    (found : assemble? items = some program)
    (split : items = earlier ++ .command (.operation op) :: later) :
    ∃ i, resolved? (addresses Memory.romBase items) op = some i ∧
      wordAt program (extent earlier) = some i.word := by
  obtain ⟨before, after, _, foundAfter, rfl, length⟩ := placed found split
  obtain ⟨block, rest, foundBlock, _, rfl⟩ := (emitted?_cons _ _ _).mp foundAfter
  obtain ⟨i, resolved, rfl⟩ := (bytes?_operation op block).mp foundBlock
  refine ⟨i, resolved, ?_⟩
  rw [← length]
  exact wordAt_append before rest i.word i.word_lt

/-- A label stands for the address at which the bytes of the items behind it begin. -/
theorem label_placed {name : String} {address : Nat} (found : assemble? items = some program)
    (known : (addresses Memory.romBase items).lookup name = some address) :
    ∃ earlier later before after, items = earlier ++ .label name :: later ∧
      address = Memory.romBase + extent earlier ∧
      emitted? (addresses Memory.romBase items) later = some after ∧
      program = before ++ after ∧ before.length = extent earlier := by
  obtain ⟨earlier, later, split, rfl⟩ := exists_of_lookup_addresses items _ name address known
  obtain ⟨before, after, _, foundAfter, rfl, length⟩ := placed found split
  obtain ⟨block, rest, nothing, foundRest, rfl⟩ := (emitted?_cons _ _ _).mp foundAfter
  obtain rfl := Option.some.inj nothing
  exact ⟨earlier, later, before, rest, split, rfl, foundRest, rfl, length⟩

end ChipEight.Assembly
