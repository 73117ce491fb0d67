import ChipEight.Proofs.Assembly.RowReading

/-!
# Renaming labels

The bytes of a program do not depend on what its labels are called, as long as different labels stay
different. Most names will do, those of registers and of commands with operands among them. The two
commands without operands are different: behind a label alone on its line or behind a comment, a
label called like one of them is taken for the command, and then the program fails.
-/

namespace ChipEight.Assembly

open Reference

/-! ## Names -/

def Target.rename (f : String → String) : Target → Target
  | .label name => .label (f name)
  | .number literal => .number literal

def Command.rename (f : String → String) : Command → Command
  | .operation op =>
    match op with
    | .sys target => .operation (.sys (target.rename f))
    | .jump target => .operation (.jump (target.rename f))
    | .call target => .operation (.call (target.rename f))
    | .loadIndex target => .operation (.loadIndex (target.rename f))
    | .jumpOffset target => .operation (.jumpOffset (target.rename f))
    | op => .operation op
  | .data values => .data values

def Item.rename (f : String → String) : Item → Item
  | .label name => .label (f name)
  | .command c => .command (c.rename f)
  | .unknown text => .unknown text

def Row.rename (f : String → String) (row : Row) : Row :=
  { row with label := row.label.map f, command := row.command.map (Command.rename f) }

def Target.names : Target → List String
  | .label name => [name]
  | .number _ => []

/-- The labels that a command refers to. -/
def Command.names : Command → List String
  | .operation op =>
    match op with
    | .sys target | .jump target | .call target | .loadIndex target | .jumpOffset target =>
      target.names
    | _ => []
  | .data _ => []

/-- The labels that an item defines or refers to. -/
def Item.names : Item → List String
  | .label name => [name]
  | .command c => c.names
  | .unknown _ => []

/-- The labels that items define or refer to. -/
def labelNames (items : List Item) : Set String := {name | ∃ item ∈ items, name ∈ item.names}

variable {f : String → String} {items : List Item}

theorem size_rename (item : Item) : size (item.rename f) = size item := by
  obtain name | command | text := item
  · rfl
  · obtain op | values := command
    · cases op <;> rfl
    · rfl
  · rfl

theorem literals_rename (item : Item) : (item.rename f).literals = item.literals := by
  have target (t : Target) : (t.rename f).literals = t.literals := by cases t <;> rfl
  obtain name | command | text := item
  · rfl
  · obtain op | values := command
    · cases op with
      | sys t | jump t | call t | loadIndex t | jumpOffset t => exact target t
      | _ => rfl
    · rfl
  · rfl

/-! ## Programs -/

theorem addresses_rename (base : Nat) :
    addresses base (items.map (Item.rename f)) = (addresses base items).map (Prod.map f id) := by
  induction items generalizing base with
  | nil => rfl
  | cons item items ih =>
    have others : addresses (base + size (item.rename f)) (items.map (Item.rename f)) =
        (addresses (base + size item) items).map (Prod.map f id) := by
      rw [size_rename, ih]
    obtain name | command | text := item
    · exact congrArg ((f name, base) :: ·) (ih base)
    · exact others
    · exact others

/-- Names that are different stay so, so they are looked up as before. -/
theorem lookup_rename {table : List (String × Nat)} {name : String}
    (injective : ∀ key ∈ table.map Prod.fst, f key = f name → key = name) :
    (table.map (Prod.map f id)).lookup (f name) = table.lookup name := by
  induction table with
  | nil => rfl
  | cons entry table ih =>
    obtain ⟨key, value⟩ := entry
    obtain ⟨first, others⟩ := List.forall_mem_cons.mp injective
    have same : (f name == f key) = (name == key) := by
      rw [Bool.eq_iff_iff, beq_iff_eq, beq_iff_eq]
      exact ⟨fun isName => (first isName.symm).symm, congrArg f⟩
    rw [List.map_cons, Prod.map_apply, List.lookup_cons, List.lookup_cons, ih others, same]
    rfl

theorem address?_rename {labels labels' : List (String × Nat)} (target : Target)
    (same : ∀ name ∈ target.names, labels'.lookup (f name) = labels.lookup name) :
    address? labels' (target.rename f) = address? labels target := by
  cases target with
  | number literal => rfl
  | label name => exact congrArg (·.bind (below? 0x1000)) (same name List.mem_cons_self)

theorem bytes?_rename {labels labels' : List (String × Nat)} (item : Item)
    (same : ∀ name ∈ item.names, labels'.lookup (f name) = labels.lookup name) :
    bytes? labels' (item.rename f) = bytes? labels item := by
  obtain name | command | text := item
  · rfl
  · obtain op | values := command
    · cases op with
      | sys target | jump target | call target | loadIndex target | jumpOffset target =>
        have address := address?_rename target same
        simp only [Item.rename, Command.rename, bytes?, resolved?, Operation.traverse, address]
      | _ => rfl
    · rfl
  · rfl

theorem mapM_bytes?_rename {labels labels' : List (String × Nat)}
    (same : ∀ name ∈ labelNames items, labels'.lookup (f name) = labels.lookup name) :
    (items.map (Item.rename f)).mapM (bytes? labels') = items.mapM (bytes? labels) := by
  induction items with
  | nil => rfl
  | cons item items ih =>
    have first := bytes?_rename item fun name mem => same name ⟨item, List.mem_cons_self, mem⟩
    have others := ih fun name ⟨other, otherMem, mem⟩ =>
      same name ⟨other, List.mem_cons_of_mem item otherMem, mem⟩
    rw [List.map_cons, List.mapM_cons, List.mapM_cons, first, others]

theorem mem_labelNames_of_addresses (base : Nat) {key : String}
    (mem : key ∈ (addresses base items).map Prod.fst) : key ∈ labelNames items := by
  induction items generalizing base with
  | nil => cases mem
  | cons item items ih =>
    have later {base : Nat} (mem : key ∈ (addresses base items).map Prod.fst) :
        key ∈ labelNames (item :: items) := by
      obtain ⟨other, otherMem, named⟩ := ih base mem
      exact ⟨other, List.mem_cons_of_mem item otherMem, named⟩
    obtain name | command | text := item
    · obtain rfl | mem := List.mem_cons.mp mem
      · exact ⟨.label key, List.mem_cons_self, List.mem_cons_self⟩
      · exact later mem
    · exact later mem
    · exact later mem

/-- If different labels stay different, the reference makes the same program. -/
theorem assemble?_rename (injective : Set.InjOn f (labelNames items)) :
    assemble? (items.map (Item.rename f)) = assemble? items := by
  have defined : Set.InjOn f {key | key ∈ (addresses Memory.romBase items).map Prod.fst} :=
    injective.mono fun key mem => mem_labelNames_of_addresses _ mem
  have names : ((addresses Memory.romBase items).map (Prod.map f id)).map Prod.fst =
      ((addresses Memory.romBase items).map Prod.fst).map f := by
    rw [List.map_map, List.map_map]
    rfl
  have distinct : (((addresses Memory.romBase items).map Prod.fst).map f).Nodup ↔
      ((addresses Memory.romBase items).map Prod.fst).Nodup :=
    ⟨.of_map f, fun nodup => nodup.map_on fun x xMem y yMem same => defined xMem yMem same⟩
  have blocks : (items.map (Item.rename f)).mapM
      (bytes? ((addresses Memory.romBase items).map (Prod.map f id))) =
        items.mapM (bytes? (addresses Memory.romBase items)) :=
    mapM_bytes?_rename fun name mem => lookup_rename fun key keyMem same =>
      injective (mem_labelNames_of_addresses _ keyMem) mem same
  rw [assemble?_eq, assemble?_eq, addresses_rename, names, blocks]
  simp only [distinct]

/-! ## Rows -/

variable {rows : List Row}

theorem items_rename (row : Row) : (row.rename f).items = row.items.map (Item.rename f) := by
  obtain ⟨label | name, command | command, tail⟩ := row <;> rfl

theorem flatMap_items_rename :
    (rows.map (Row.rename f)).flatMap Row.items =
      (rows.flatMap Row.items).map (Item.rename f) := by
  rw [List.flatMap_map, List.map_flatMap]
  exact congrArg (rows.flatMap ·) (funext items_rename)

theorem upcoming?_rename (comments : Nat) :
    upcoming? comments (rows.map (Row.rename f)) =
      (upcoming? comments rows).map (Row.rename f) := by
  induction rows generalizing comments with
  | nil => rfl
  | cons row rows ih =>
    obtain ⟨label | name, command | command, tail⟩ := row
    case none.some | some.none | some.some => rfl
    by_cases isComment : tail = .comment
    · subst isComment
      cases comments with
      | zero => rfl
      | succ comments => exact ih comments
    · rw [upcoming?_blank comments isComment]
      exact (upcoming?_blank comments isComment).trans (ih comments)

theorem isCommand_rename (row? : Option Row) :
    (row?.map (Row.rename f)).any Row.isCommand = row?.any Row.isCommand := by
  obtain _ | ⟨label | name, command | command, tail⟩ := row? <;> rfl

/-- Legible rows stay legible if no new label misleads. -/
theorem legible_rename (honest : ∀ row ∈ rows, (row.rename f).misleads = false) (behind : Bool)
    (isLegible : legible behind rows) : legible behind (rows.map (Row.rename f)) := by
  induction rows generalizing behind with
  | nil => rfl
  | cons row rows ih =>
    obtain ⟨_, honestRows⟩ := List.forall_mem_cons.mp honest
    have honestNext (comments : Nat) :
        (upcoming? comments (rows.map (Row.rename f))).any Row.misleads = false :=
      honest_of_plain (List.forall_mem_map.mpr honestRows) comments
    have sameNext (comments : Nat) : (upcoming? comments (rows.map (Row.rename f))).any
        Row.isCommand = (upcoming? comments rows).any Row.isCommand := by
      rw [upcoming?_rename, isCommand_rename]
    obtain ⟨label | name, command | command, tail⟩ := row
    case none.some | some.some => exact ih honestRows true isLegible
    case some.none =>
      obtain ⟨kept, others⟩ := Bool.and_eq_true_iff.mp isLegible
      have keptThen : keepsLabel (rows.map (Row.rename f)) tail := by
        cases tail with
        | nothing => exact keepsLabel_nothing (honestNext 1)
        | blanks => exact (sameNext 1).trans kept
        | comment => exact (sameNext 0).trans kept
      exact (legible_of_kept tail keptThen).trans (ih honestRows false others)
    case none.none =>
      by_cases isComment : tail = .comment
      · subst isComment
        have others := (Bool.and_eq_true_iff.mp isLegible).2
        exact (legible_comment behind (honestNext 0)).trans (ih honestRows behind others)
      · rw [legible_blank behind isComment] at isLegible
        exact (legible_blank behind isComment).trans (ih honestRows behind isLegible)

/-! ## Texts -/

/-- The program of a text, with other names for its labels, is the same if its rows are legible with
    them. If they are not, the text fails, and some label is called like a command without
    operands. -/
theorem assembleText_rename {lines lines' : List (List Char)} {program : List UInt8}
    (writes : List.Forall₂ Row.Writes rows lines)
    (writes' : List.Forall₂ Row.Writes (rows.map (Row.rename f)) lines')
    (injective : Set.InjOn f (labelNames (rows.flatMap Row.items)))
    (assembled : assembleText (textOf lines) = .ok program) :
    (legible false (rows.map (Row.rename f)) → assembleText (textOf lines') = .ok program) ∧
      (legible false (rows.map (Row.rename f)) = false →
        Fails (textOf lines') ∧ ∃ row ∈ rows, (row.rename f).misleads) := by
  have isLegible := legible_of_assembleText writes assembled
  have items := itemsOf_of_rows writes isLegible
  refine ⟨fun legibleThen => ?_, fun notLegible => ⟨fails_of_rows writes' notLegible, ?_⟩⟩
  · have itemsThen : itemsOf (textOf lines') = (itemsOf (textOf lines)).map (Item.rename f) := by
      rw [itemsOf_of_rows writes' legibleThen, items, flatMap_items_rename]
    apply assembleText_of_assemble? <;> rw [itemsThen]
    · intro item mem
      obtain ⟨before, beforeMem, rfl⟩ := List.mem_map.mp mem
      rw [literals_rename]
      exact readable_of_assembleText _ program assembled before beforeMem
    · rw [assemble?_rename (items ▸ injective)]
      exact assemble?_of_assembleText _ program assembled
  · by_contra none
    have honest : ∀ row ∈ rows, (row.rename f).misleads = false :=
      fun row mem => Bool.eq_false_iff.mpr fun misleads => none ⟨row, mem, misleads⟩
    rw [legible_rename honest false isLegible] at notLegible
    cases notLegible

/-- Behind a label alone on its line, no label can be called like a command without operands. -/
theorem assembleText_rename_return :
    assembleText "a:\nb: RET" = .ok [0x00, 0xEE] ∧ Fails "a:\nCLS: RET" := by
  have labelled {name : String} {token : Token} (spells : SpellsName name token) :
      Row.Writes ⟨some name, some (.operation .ret), .nothing⟩
        ((token ++ [':']) ++ (([' '] ++ "RET".toList ++ []) ++ [])) := by
    have isReturn : (Command.operation .ret).Spelled ["RET".toList] :=
      spellsLine_zero_iff.mpr ⟨_, spellsWord_self "RET", rfl⟩
    exact .labelled spells (spaced_label token) isReturn (.cons [' '] blank_space nofun .nil)
      .nothing
  have label : Row.Writes ⟨some "a", none, .nothing⟩ "a:".toList :=
    .label (.intro 'a' [] rfl (List.forall_mem_nil _)) (spaced_label ['a']) .nothing nofun
  have before : List.Forall₂ Row.Writes
      [⟨some "a", none, .nothing⟩, ⟨some "b", some (.operation .ret), .nothing⟩]
      ["a:".toList, "b: RET".toList] :=
    .cons label (.cons (labelled (.intro 'b' [] rfl (List.forall_mem_nil _))) .nil)
  have after : List.Forall₂ Row.Writes
      [⟨some "a", none, .nothing⟩, ⟨some "CLS", some (.operation .ret), .nothing⟩]
      ["a:".toList, "CLS: RET".toList] :=
    .cons label (.cons (labelled (.intro 'C' "LS".toList rfl (List.all_eq_true.mp rfl))) .nil)
  have renamed : ([⟨some "a", none, .nothing⟩, ⟨some "b", some (.operation .ret), .nothing⟩] :
      List Row).map (Row.rename (Equiv.swap "b" "CLS")) =
        [⟨some "a", none, .nothing⟩, ⟨some "CLS", some (.operation .ret), .nothing⟩] := by
    decide
  have assembled : assembleText (textOf ["a:".toList, "b: RET".toList]) = .ok [0x00, 0xEE] := by
    decide +kernel
  obtain ⟨_, fails⟩ := assembleText_rename before (renamed ▸ after)
    (Equiv.swap "b" "CLS").injective.injOn assembled
  have notLegible : legible false
      [⟨some "a", none, .nothing⟩, ⟨some "CLS", some (.operation .ret), .nothing⟩] = false := by
    decide
  exact ⟨assembled, (fails (renamed ▸ notLegible)).1⟩

end ChipEight.Assembly
