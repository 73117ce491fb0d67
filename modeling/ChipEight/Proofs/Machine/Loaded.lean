import ChipEight.Proofs.Assembly.Agreement
import ChipEight.Proofs.Assembly.Placement
import ChipEight.Proofs.Machine.Calls

/-!
# Programs in a machine

A program that has been assembled fits into a new machine, and there it is what was written: every
operation is fetched from where its item lies, and a label is the address in memory of whatever
comes behind it (`load_of_assemble`).
-/

namespace ChipEight.Machine

open Assembly Assembly.Reference

/-! ## Operations with labels -/

/-- The label in the place of an address that an operation jumps to or loads. -/
def pointsTo? : Operation Literal Literal Target → Option String
  | .jump (.label name) | .call (.label name) | .jumpOffset (.label name)
  | .loadIndex (.label name) => some name
  | _ => none

/-- What it means to execute a word as an operation that points to an address: a jump or a call goes
    there, a jump with an offset goes as far behind it as register 0 says, and a load has the index
    register point there. -/
def Points (word address : Nat) : Operation Literal Literal Target → Prop
  | .jump _ => ∀ m : Machine, execute word m = .ok .jump { m with pc := address }
  | .call _ => ∀ m : Machine, m.stack.depth < 16 →
    ∃ stack, m.stack.push? m.pc = some stack ∧
      execute word m = .ok .jump { m with pc := address, stack }
  | .jumpOffset _ => ∀ m : Machine,
    execute word m = .ok .jump { m with pc := (m.register 0).toNat + address }
  | .loadIndex _ => ∀ m : Machine,
    execute word m = .ok .next { m with index := address, pc := (m.pc + 2) % 0x10000 }
  | _ => False

/-- An address that is written as a label is the one that the label stands for. -/
theorem exists_of_address?_label {labels : List (String × Nat)} {make : Address → Instruction}
    {i : Instruction} {name : String}
    (found : (address? labels (.label name)).map make = some i) :
    ∃ a : Address, labels.lookup name = some a.val ∧ i = make a := by
  obtain ⟨a, isAddress, rfl⟩ := Option.map_eq_some_iff.mp found
  obtain ⟨place, known, same⟩ := Option.bind_eq_some_iff.mp isAddress
  rw [← below?_eq_some_iff.mp same] at known
  exact ⟨a, known, rfl⟩

theorem points_of_resolved? {labels : List (String × Nat)}
    {op : Operation Literal Literal Target} {i : Instruction} {name : String}
    (resolved : resolved? labels op = some i) (points : pointsTo? op = some name) :
    ∃ address, labels.lookup name = some address ∧ Points i.word address op := by
  cases op with
  | jump target =>
    cases target with
    | number _ => cases points
    | label _ =>
      obtain rfl := Option.some.inj points
      obtain ⟨a, known, rfl⟩ := exists_of_address?_label resolved
      refine ⟨a.val, known, fun m => ?_⟩
      rw [execute_word (.jump a) id]
      rfl
  | call target =>
    cases target with
    | number _ => cases points
    | label _ =>
      obtain rfl := Option.some.inj points
      obtain ⟨a, known, rfl⟩ := exists_of_address?_label resolved
      refine ⟨a.val, known, fun m free => ?_⟩
      have pushes : (m.stack.push? m.pc).isSome := by
        rw [Stack.push?_isSome]
        exact decide_eq_true free
      obtain ⟨stack, pushed⟩ := Option.isSome_iff_exists.mp pushes
      refine ⟨stack, pushed, ?_⟩
      rw [execute_word (.call a) id, performAndAdvance_apply, perform, performCall_apply, pushed]
      rfl
  | jumpOffset target =>
    cases target with
    | number _ => cases points
    | label _ =>
      obtain rfl := Option.some.inj points
      obtain ⟨a, known, rfl⟩ := exists_of_address?_label resolved
      refine ⟨a.val, known, fun m => ?_⟩
      rw [execute_word (.jumpOffset a) id]
      rfl
  | loadIndex target =>
    cases target with
    | number _ => cases points
    | label _ =>
      obtain rfl := Option.some.inj points
      obtain ⟨a, known, rfl⟩ := exists_of_address?_label resolved
      refine ⟨a.val, known, fun m => ?_⟩
      rw [execute_word (.loadIndex a) id]
      rfl
  | _ => cases points

/-! ## Programs in memory -/

/-- Whether a memory is that of a new machine with a program in the place for it. -/
def HoldsProgram (memory : Memory) (program : List UInt8) : Prop :=
  ∀ address : Nat, memory.bytes[address]? =
    if Memory.romBase ≤ address ∧ address < Memory.romBase + program.length then
      program[address - Memory.romBase]?
    else (Memory.ofSize).bytes[address]?

theorem HoldsProgram.getElem? {memory : Memory} {program : List UInt8}
    (holds : HoldsProgram memory program) {offset : Nat} (inside : offset < program.length) :
    memory.bytes[Memory.romBase + offset]? = program[offset]? := by
  rw [holds, if_pos ⟨Nat.le_add_right _ _, Nat.add_lt_add_left inside _⟩, Nat.add_sub_cancel_left]

/-- A word of a program is read from memory at its place. -/
theorem HoldsProgram.readWord {memory : Memory} {program : List UInt8}
    (holds : HoldsProgram memory program) {offset word : Nat}
    (isWord : wordAt program offset = some word) :
    memory.readWord ((Memory.romBase + offset : Nat) : Int) = .ok word := by
  obtain ⟨high, first, isWord⟩ := Option.bind_eq_some_iff.mp isWord
  obtain ⟨low, second, isWord⟩ := Option.bind_eq_some_iff.mp isWord
  obtain rfl := Option.some.inj isWord
  obtain ⟨bound, _⟩ := List.getElem?_eq_some_iff.mp second
  apply Memory.readWord_of_getElem?
  · rw [holds.getElem? (Nat.lt_of_succ_lt bound), first]
  · rw [Nat.add_assoc, holds.getElem? bound, second]

/-- Whether an address is the one in memory of what comes behind a label: the bytes of the items
    there begin at it and reach to the end of the program. -/
def LabelAt (memory : Memory) (items : List Item) (size : Nat) (name : String) (address : Nat) :
    Prop :=
  ∃ earlier later rest, items = earlier ++ .label name :: later ∧
    address = Memory.romBase + extent earlier ∧
    emitted? (addresses Memory.romBase items) later = some rest ∧
    address + rest.length = Memory.romBase + size ∧
    ∀ k, k < rest.length → memory.bytes[address + k]? = rest[k]?

theorem labelAt_of_lookup {memory : Memory} {items : List Item} {program : List UInt8}
    {name : String} {address : Nat} (found : assemble? items = some program)
    (holds : HoldsProgram memory program)
    (known : (addresses Memory.romBase items).lookup name = some address) :
    LabelAt memory items program.length name address := by
  obtain ⟨earlier, later, before, after, split, rfl, emitted, rfl, length⟩ :=
    label_placed found known
  refine ⟨earlier, later, after, split, rfl, emitted, ?_, fun k inside => ?_⟩
  · rw [List.length_append, length, Nat.add_assoc]
  · rw [Nat.add_assoc, holds.getElem? (by rw [List.length_append]; omega), ← length,
      List.getElem?_append_right (Nat.le_add_right _ _), Nat.add_sub_cancel_left]

/-- A program that has been assembled is loaded into a new machine, of which it changes nothing but
    the bytes in its place. Every operation is fetched from where its item lies, and one with a
    label points to the address at which memory holds what comes behind the label. -/
theorem load_of_assemble (modules : List Module) (program : List UInt8) (random : Random.Source)
    (assembled : assemble modules = .ok program) :
    ∃ memory, load program { random } = .ok () { random, memory } ∧ HoldsProgram memory program ∧
      ∀ earlier op later, itemsOfAll modules = earlier ++ .command (.operation op) :: later →
        ∃ i, resolved? (addresses Memory.romBase (itemsOfAll modules)) op = some i ∧
          (∀ m : Machine, m.memory = memory → m.pc = (Memory.romBase + extent earlier : Nat) →
            fetch m = .ok i.word m) ∧
          ∀ name, pointsTo? op = some name →
            ∃ address, LabelAt memory (itemsOfAll modules) program.length name address ∧
              Points i.word address op := by
  have found := assemble?_of_assemble modules program assembled
  obtain ⟨_, _, room⟩ := (assemble?_eq_some_iff _ program).mp found
  have fits : Memory.romBase + program.length ≤ (Memory.ofSize).size := by
    rw [Memory.size_ofSize]
    have capacity : Memory.capacity ≤ max Memory.capacity Font.glyphs.length := Nat.le_max_left _ _
    rw [Memory.romBase] at room ⊢
    rw [Memory.capacity] at room capacity ⊢
    omega
  obtain ⟨memory, loaded, bytes⟩ := Memory.load_eq_ok .ofSize program fits
  have holds : HoldsProgram memory program := bytes
  refine ⟨memory, by rw [load_apply, loaded], holds, fun earlier op later split => ?_⟩
  obtain ⟨i, resolved, isPlaced⟩ := word_placed found split
  refine ⟨i, resolved, fun m sameMemory samePc => ?_, fun name points => ?_⟩
  · rw [fetch_apply, sameMemory, samePc, holds.readWord isPlaced]
  · obtain ⟨address, known, executes⟩ := points_of_resolved? resolved points
    exact ⟨address, labelAt_of_lookup found holds known, executes⟩

/-- A jump over a byte, which leaves its label at an odd address. -/
theorem load_of_assemble_odd :
    assemble [{ text := "JP end\nDB 7\nend: RET" }] = .ok [0x12, 0x03, 0x07, 0x00, 0xEE] ∧
      ∃ memory, load [0x12, 0x03, 0x07, 0x00, 0xEE] { random := .sequence #[0] 0 } =
          .ok () { random := .sequence #[0] 0, memory } ∧
        (∀ m : Machine, m.memory = memory → m.pc = 0x200 → fetch m = .ok 0x1203 m) ∧
        ∃ address,
          LabelAt memory (itemsOfAll [{ text := "JP end\nDB 7\nend: RET" }]) 5 "end" address ∧
          ∀ m : Machine, execute 0x1203 m = .ok .jump { m with pc := address } := by
  have jump : (Command.operation (.jump (.label "end"))).Spelled ["JP".toList, "end".toList] :=
    spellsLine_one_iff.mpr ⟨_, _, spellsWord_self "JP",
      .label (.intro 'e' "nd".toList rfl (List.all_eq_true.mp rfl)), rfl⟩
  have data : (Command.data [⟨.decimal, "7".toList⟩]).Spelled ["DB".toList, "7".toList] :=
    ⟨List.cons_ne_nil _ _, spellsLine_one_iff.mpr ⟨_, _, spellsWord_self "DB",
      .decimal "7".toList (by decide) (List.all_eq_true.mp rfl), rfl⟩⟩
  have ret : (Command.operation .ret).Spelled ["RET".toList] :=
    spellsLine_zero_iff.mpr ⟨_, spellsWord_self "RET", rfl⟩
  have holds : Module.Holds { text := "JP end\nDB 7\nend: RET" }
      [.command (.operation (.jump (.label "end"))), .command (.data [⟨.decimal, "7".toList⟩]),
        .label "end", .command (.operation .ret)] := by
    refine ⟨[[_], [_], [_, _]], ["JP end".toList, "DB 7".toList, "end: RET".toList],
      .cons ?_ (.cons ?_ (.cons ?_ .nil)), by decide, rfl⟩
    · exact .command jump (spaced_intercalate _) (.blank (List.forall_mem_nil _))
    · exact .command data (spaced_intercalate _) (.blank (List.forall_mem_nil _))
    · have spaced : Spaced true ["RET".toList] " RET".toList :=
        .cons [' '] blank_space nofun .nil
      exact .labelled (.intro 'e' "nd".toList rfl (List.all_eq_true.mp rfl)) (by decide)
        (spaced_label "end".toList) ret spaced (.blank (List.forall_mem_nil _))
  have assembled : assemble [{ text := "JP end\nDB 7\nend: RET" }] =
      .ok [0x12, 0x03, 0x07, 0x00, 0xEE] := holds.assembleText (by decide) (by decide)
  have items : itemsOfAll [{ text := "JP end\nDB 7\nend: RET" }] = _ :=
    (List.append_nil _).trans holds.itemsOf
  obtain ⟨memory, loaded, _, placed⟩ :=
    load_of_assemble [{ text := "JP end\nDB 7\nend: RET" }] _ (.sequence #[0] 0) assembled
  rw [items] at placed
  obtain ⟨i, resolved, fetched, points⟩ := placed [] _ _ rfl
  obtain rfl : Operation.jump 0x203 = i := Option.some.inj resolved
  obtain ⟨address, lies, executes⟩ := points "end" rfl
  rw [items]
  exact ⟨assembled, memory, loaded, fetched, address, lies, executes⟩

end ChipEight.Machine
