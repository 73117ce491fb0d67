import ChipEight.Proofs.Assembly.Words

/-!
# Two passes are the reference

The first pass and linking make the program of `Reference.assemble?` from any items
(`assemble_of_some`), and fail where there is none (`assemble_of_none`). One item at a time, an
action passes and its chunks are linked exactly if the reference has bytes for the item; the rest is
that offsets in the first pass are addresses of the reference.
-/

namespace ChipEight.Assembly

open Reference

/-- Whether an error is about the program, and not one of the numbers that stand in it or in a
    message. -/
def Error.isOwn : Error → Bool
  | .outOfRange _ _ _ | .duplicateLabel _ | .unknownCommand _ _ | .unresolvedLabel _
  | .labelTooFar _
  | .programTooLarge _ => true
  | .wordTooWide | .wordOutOfRange | .numberTooLong => false

/-! ## Operands -/

theorem below?_eq_some_iff {limit n : Nat} {a : Fin limit} :
    below? limit n = some a ↔ a.val = n := by
  rw [below?]
  split
  next small => simp [Fin.ext_iff, eq_comm]
  next large =>
    simp only [reduceCtorEq, false_iff]
    rintro rfl
    exact large a.isLt

theorem below?_eq_none_iff {limit n : Nat} : below? limit n = none ↔ limit ≤ n := by
  rw [below?]
  split <;> simp <;> omega

theorem byte?_eq_some_iff {l : Literal} {b : UInt8} : byte? l = some b ↔ b.toNat = l.value := by
  rw [byte?, number_eq_value]
  change Option.map UInt8.ofFin _ = some b ↔ _
  rw [Option.map_eq_some_iff]
  constructor
  · rintro ⟨a, found, rfl⟩
    exact below?_eq_some_iff.mp found
  · intro same
    exact ⟨b.toFin, below?_eq_some_iff.mpr same, rfl⟩

theorem byte?_eq_none_iff {l : Literal} : byte? l = none ↔ 0x100 ≤ l.value := by
  rw [byte?, number_eq_value]
  change Option.map UInt8.ofFin _ = none ↔ _
  rw [Option.map_eq_none_iff, below?_eq_none_iff]

theorem nibble?_eq_some_iff {l : Literal} {n : Fin 0x10} :
    nibble? l = some n ↔ n.val = l.value := by
  rw [nibble?, number_eq_value, below?_eq_some_iff]

theorem nibble?_eq_none_iff {l : Literal} : nibble? l = none ↔ 0x10 ≤ l.value := by
  rw [nibble?, number_eq_value, below?_eq_none_iff]

variable {labels : List (String × Nat)}

theorem address?_number_eq_some_iff {l : Literal} {a : Address} :
    address? labels (.number l) = some a ↔ a.val = l.value := by
  rw [address?, number_eq_value, below?_eq_some_iff]

theorem address?_number_eq_none_iff {l : Literal} :
    address? labels (.number l) = none ↔ 0x1000 ≤ l.value := by
  rw [address?, number_eq_value, below?_eq_none_iff]

theorem isOutside_of_le (field : Field) (n : Nat) (large : field.limit ≤ n) :
    isOutside (field, (n : Int)) := by
  refine decide_eq_true fun inside => ?_
  have below : (n : Int) < field.limit := inside.2
  omega

/-! ## Commands -/

/-- An operation with an instruction asks for its word, or for a label in the place of its
    address. -/
theorem issue_of_resolved? (op : Operation Literal Literal Target) (i : Instruction)
    (resolved : resolved? labels op = some i) :
    issue op = .word i.template i.fields ∨
      ∃ name target, (labels.lookup name).bind (below? 0x1000) = some target ∧
        i.fields = [(Field.address, (target.val : Int))] ∧
        issue op = .reference i.template name := by
  cases op with
  | clear | ret =>
    obtain rfl := Option.some.inj resolved
    exact .inl rfl
  | skipSame x y | skipDifferent x y | copy x y | or x y | and x y | xor x y | addRegister x y
  | sub x y
  | subFrom x y | shiftRight x y | shiftLeft x y =>
    obtain rfl := Option.some.inj resolved
    exact .inl rfl
  | skipPressed x | skipReleased x | readDelay x | waitKey x | setDelay x | setSound x | addIndex x
  | loadGlyph x
  | storeDecimal x | storeRegisters x | loadRegisters x =>
    obtain rfl := Option.some.inj resolved
    exact .inl rfl
  | skipEqual x value | skipUnequal x value | load x value | add x value | random x value =>
    obtain ⟨b, found, rfl⟩ := Option.map_eq_some_iff.mp resolved
    left
    simp only [issue, Instruction.fields, Operation.template, byte?_eq_some_iff.mp found]
  | draw x y rows =>
    obtain ⟨n, found, rfl⟩ := Option.map_eq_some_iff.mp resolved
    left
    simp only [issue, Instruction.fields, Operation.template, nibble?_eq_some_iff.mp found]
  | sys target | jump target | call target | loadIndex target | jumpOffset target =>
    obtain ⟨a, found, rfl⟩ := Option.map_eq_some_iff.mp resolved
    cases target with
    | number literal =>
      left
      simp only [issue, Target.action, Instruction.fields, Operation.template,
        address?_number_eq_some_iff.mp found]
    | label name => exact .inr ⟨name, a, found, rfl, rfl⟩

/-- An operation without an instruction has a number outside its place or a label without an
    address. -/
theorem issue_of_resolved?_none (op : Operation Literal Literal Target)
    (unresolved : resolved? labels op = none) :
    (∃ operand ∈ (issue op).operands, isOutside operand) ∨
      ∃ name, (labels.lookup name).bind (below? 0x1000) = none ∧
        issue op = .reference op.template name := by
  cases op with
  | clear | ret => cases unresolved
  | skipSame x y | skipDifferent x y | copy x y | or x y | and x y | xor x y | addRegister x y
  | sub x y
  | subFrom x y | shiftRight x y | shiftLeft x y => cases unresolved
  | skipPressed x | skipReleased x | readDelay x | waitKey x | setDelay x | setSound x | addIndex x
  | loadGlyph x
  | storeDecimal x | storeRegisters x | loadRegisters x => cases unresolved
  | skipEqual x value | skipUnequal x value | load x value | add x value | random x value =>
    have large := byte?_eq_none_iff.mp (Option.map_eq_none_iff.mp unresolved)
    exact .inl ⟨(.byte, value.value), by simp [issue, Action.operands],
      isOutside_of_le .byte _ large⟩
  | draw x y rows =>
    have large := nibble?_eq_none_iff.mp (Option.map_eq_none_iff.mp unresolved)
    exact .inl ⟨(.nibble, rows.value), by simp [issue, Action.operands],
      isOutside_of_le .nibble _ large⟩
  | sys target | jump target | call target | loadIndex target | jumpOffset target =>
    have missing := Option.map_eq_none_iff.mp unresolved
    cases target with
    | number literal =>
      have large := address?_number_eq_none_iff.mp missing
      exact .inl ⟨(.address, literal.value), by simp [issue, Target.action, Action.operands],
        isOutside_of_le .address _ large⟩
    | label name => exact .inr ⟨name, missing, rfl⟩

/-! ## Items -/

/-- Whether a listing has the addresses of labels as the reference has them. -/
def Listing.Knows (l : Listing) (labels : List (String × Nat)) : Prop :=
  ∀ name,
    match (labels.lookup name).bind (below? 0x1000) with
    | some target => l.address name = .ok target
    | none => ∃ e, l.address name = .error e ∧ e.isOwn

variable {l : Listing}

theorem mapM_byte?_of_some (values : List Literal) (block : List UInt8)
    (found : values.mapM byte? = some block) :
    (∀ value ∈ values, ¬ isOutside (.byte, (value.value : Int))) ∧
      block = values.map fun v => UInt8.ofNat v.value := by
  induction values generalizing block with
  | nil =>
    obtain rfl := Option.some.inj found
    exact ⟨List.forall_mem_nil _, rfl⟩
  | cons value values ih =>
    rw [List.mapM_cons, Option.bind_eq_bind, Option.bind_eq_some_iff] at found
    obtain ⟨b, first, found⟩ := found
    rw [Option.bind_eq_bind, Option.bind_eq_some_iff] at found
    obtain ⟨rest, others, same⟩ := found
    obtain rfl := Option.some.inj same
    obtain ⟨inside, rfl⟩ := ih rest others
    have value_eq : b.toNat = value.value := byte?_eq_some_iff.mp first
    have small := b.toNat_lt
    refine ⟨List.forall_mem_cons.mpr ⟨?_, inside⟩, ?_⟩
    · rw [not_isOutside_iff]
      change 0 ≤ (value.value : Int) ∧ (value.value : Int) < (0x100 : Nat)
      omega
    · rw [List.map_cons, ← value_eq, UInt8.ofNat_toNat]

theorem exists_outside_of_none (values : List Literal) (missing : values.mapM byte? = none) :
    ∃ value ∈ values, isOutside (.byte, (value.value : Int)) := by
  induction values with
  | nil => cases missing
  | cons value values ih =>
    cases first : byte? value with
    | none =>
      exact ⟨value, List.mem_cons_self, isOutside_of_le .byte _ (byte?_eq_none_iff.mp first)⟩
    | some b =>
      cases others : values.mapM byte? with
      | some rest => simp [List.mapM_cons, first, others] at missing
      | none =>
        obtain ⟨bad, mem, outside⟩ := ih others
        exact ⟨bad, List.mem_cons_of_mem _ mem, outside⟩

theorem wordBytes_eq (word : Nat) :
    wordBytes word = [UInt8.ofNat (word / 0x100), UInt8.ofNat (word % 0x100)] := by
  have low : UInt8.ofNat (word % 0x100) = UInt8.ofNat word := by
    apply UInt8.toNat_inj.mp
    simp
  rw [wordBytes, low]

/-- Where the reference has bytes for an item, its action passes and its chunks become these
    bytes. -/
theorem linked_of_bytes? (item : Item) (block : List UInt8)
    (found : bytes? labels item = some block) :
    item.action.Passes ∧
      (l.Knows labels → ∃ blocks, item.action.chunks.mapM l.resolve = .ok blocks ∧
      blocks.flatten = block) := by
  cases item with
  | unknown text => cases found
  | label name =>
    obtain rfl := Option.some.inj found
    exact ⟨⟨rfl, trivial⟩, fun _ => ⟨[], rfl, rfl⟩⟩
  | command command =>
    cases command with
    | data values =>
      obtain ⟨inside, rfl⟩ := mapM_byte?_of_some values block found
      have passes : (Item.command (.data values)).action.Passes := by
        refine ⟨List.find?_eq_none.mpr ?_, trivial⟩
        simp only [Item.action, Action.operands, List.map_map, List.forall_mem_map]
        exact inside
      refine ⟨passes, fun _ => ⟨_, rfl, ?_⟩⟩
      simp
    | operation op =>
      rw [bytes?, Option.bind_eq_bind, Option.bind_eq_some_iff] at found
      obtain ⟨i, resolved, same⟩ := found
      obtain rfl := Option.some.inj same
      rw [← wordBytes_eq]
      obtain asked | ⟨name, target, known, fields, asked⟩ := issue_of_resolved? op i resolved
      · simp only [Item.action, asked, Action.chunks, encode_fields]
        exact ⟨⟨find?_fields i, i.word, encode_fields i⟩, fun _ => ⟨[wordBytes i.word],
          rfl, by simp⟩⟩
      · simp only [Item.action, asked, Action.chunks]
        refine ⟨⟨rfl, trivial⟩, fun knows => ⟨[wordBytes i.word], ?_, by simp⟩⟩
        have address : l.address name = .ok target := by
          have said := knows name
          rw [known] at said
          exact said
        have linked : l.resolve (.reference i.template name) = .ok (wordBytes i.word) := by
          rw [Listing.resolve, address]
          change (do return wordBytes (← encode i.template [(.address, (target.val : Int))]) :
            Except Error _) = _
          rw [← fields, encode_fields]
          rfl
        rw [List.mapM_cons, linked]
        rfl

/-- Where the reference has none, the action does not pass or its chunks cannot be linked. -/
theorem not_linked_of_bytes? (knows : l.Knows labels) (item : Item)
    (missing : bytes? labels item = none) :
    ¬ item.action.Passes ∨ ∃ e, item.action.chunks.mapM l.resolve = .error e ∧ e.isOwn := by
  have fails (operand : Field × Int) (mem : operand ∈ item.action.operands)
    (outside : isOutside operand) :
      ¬ item.action.Passes := fun passes => List.find?_eq_none.mp passes.1 operand mem outside
  cases item with
  | unknown text => exact .inl fun passes => passes.2
  | label name => cases missing
  | command command =>
    cases command with
    | data values =>
      obtain ⟨value, mem, outside⟩ := exists_outside_of_none values missing
      refine .inl (fails (.byte, value.value) ?_ outside)
      simp only [Item.action, Action.operands, List.map_map]
      exact List.mem_map_of_mem mem
    | operation op =>
      have unresolved : resolved? labels op = none := by
        rw [bytes?, Option.bind_eq_bind, Option.bind_eq_none_iff] at missing
        rw [Option.eq_none_iff_forall_ne_some]
        intro i resolved
        cases missing i resolved
      obtain ⟨operand, mem, outside⟩ | ⟨name, unknown, asked⟩ :=
        issue_of_resolved?_none op unresolved
      · exact .inl (fails operand mem outside)
      · right
        obtain ⟨e, failed, own⟩ : ∃ e, l.address name = .error e ∧ e.isOwn := by
          have said := knows name
          rw [unknown] at said
          exact said
        refine ⟨e, ?_, own⟩
        simp only [Item.action, asked, Action.chunks, List.mapM_cons, Listing.resolve, failed]
        rfl

/-! ## Addresses -/

theorem issue_kind (op : Operation Literal Literal Target) :
    (∃ operands, issue op = .word op.template operands) ∨
      ∃ name, issue op = .reference op.template name := by
  cases op with
  | sys target | jump target | call target | loadIndex target | jumpOffset target =>
    cases target with
    | number literal => exact .inl ⟨_, rfl⟩
    | label name => exact .inr ⟨_, rfl⟩
  | _ => exact .inl ⟨_, rfl⟩

theorem hasTemplate_action (item : Item) : item.action.HasTemplate := by
  cases item with
  | label name | unknown text => trivial
  | command command =>
    cases command with
    | data values => trivial
    | operation op =>
      obtain ⟨operands, asked⟩ | ⟨name, asked⟩ := issue_kind op
      · rw [Item.action, asked]
        exact ⟨op, rfl⟩
      · rw [Item.action, asked]
        exact ⟨op, rfl⟩

theorem label?_issue (op : Operation Literal Literal Target) : (issue op).label? = none := by
  obtain ⟨operands, asked⟩ | ⟨name, asked⟩ := issue_kind op <;> rw [asked] <;> rfl

theorem size_action (item : Item) (passes : item.action.Passes) : item.action.size = size item := by
  cases item with
  | label name => rfl
  | unknown text => rfl
  | command command =>
    cases command with
    | data values => simp [Item.action, Action.size, Action.chunks, Chunk.size, size]
    | operation op =>
      obtain ⟨operands, asked⟩ | ⟨name, asked⟩ := issue_kind op
      · rw [Item.action, asked] at passes
        obtain ⟨encoded, fits⟩ := passes.2
        simp only [Item.action, asked, Action.size, Action.chunks, fits]
        rfl
      · simp only [Item.action, asked]
        rfl

/-- If items pass, the offsets that the first pass gives to their labels are addresses less the
    base. -/
theorem addresses_eq (items : List Item) (passes : ∀ item ∈ items, item.action.Passes)
    (offset : Nat) :
    addresses (Memory.romBase + offset) items =
      (offsets offset (items.map Item.action)).map fun (name, offset) =>
      (name, Memory.romBase + offset) := by
  induction items generalizing offset with
  | nil => rfl
  | cons item items ih =>
    obtain ⟨first, others⟩ := List.forall_mem_cons.mp passes
    have sized := size_action item first
    rw [List.map_cons, offsets, sized, List.map_append, ← ih others]
    cases item with
    | label name => rfl
    | unknown text => exact absurd first.2 id
    | command command =>
      cases command with
      | data values =>
        rw [← Nat.add_assoc]
        rfl
      | operation op =>
        rw [Item.action, label?_issue]
        rfl

theorem map_fst_addresses (items : List Item) (address : Nat) :
    (addresses address items).map Prod.fst = (items.map Item.action).filterMap Action.label? := by
  induction items generalizing address with
  | nil => rfl
  | cons item items ih =>
    cases item with
    | label name => exact congrArg (name :: ·) (ih address)
    | unknown text => exact ih _
    | command command =>
      cases command with
      | data values => exact ih _
      | operation op =>
        have unlabelled : (Item.command (.operation op)).action.label? = none := label?_issue op
        rw [List.map_cons, List.filterMap_cons_none unlabelled]
        exact ih _

theorem lookup_reverse {β : Type} (table : List (String × β))
    (distinct : (table.map Prod.fst).Nodup) (name : String) :
    table.reverse.lookup name = table.lookup name := by
  induction table with
  | nil => rfl
  | cons entry table ih =>
    obtain ⟨key, value⟩ := entry
    rw [List.map_cons, List.nodup_cons] at distinct
    rw [List.reverse_cons, List.lookup_append, ih distinct.2]
    simp only [List.lookup_cons, List.lookup_nil]
    by_cases same : name = key
    · subst same
      -- The name comes only once, so its entry may be found from either end.
      have missing : table.lookup name = none := by
        rw [List.lookup_eq_none_iff]
        intro entry mem
        rw [bne_iff_ne]
        rintro rfl
        exact distinct.1 (List.mem_map.mpr ⟨entry, mem, rfl⟩)
      simp [missing]
    · simp [beq_false_of_ne same]

theorem lookup_map (table : List (String × Nat)) (f : Nat → Nat) (name : String) :
    (table.map fun (key, value) => (key, f value)).lookup name = (table.lookup name).map f := by
  induction table with
  | nil => rfl
  | cons entry table ih =>
    obtain ⟨key, value⟩ := entry
    rw [List.map_cons, List.lookup_cons, List.lookup_cons, ih]
    cases name == key <;> rfl

theorem map_fst_offsets (actions : List Action) (base : Nat) :
    (offsets base actions).map Prod.fst = actions.filterMap Action.label? := by
  induction actions generalizing base with
  | nil => rfl
  | cons a actions ih =>
    rw [offsets, List.map_append, ih, List.filterMap_cons]
    cases a.label? <;> rfl

/-- Where each label is defined once, it is known by the offset in the table of the first pass. -/
theorem Listing.offset?_of_labels (l : Listing) {actions : List Action}
    (left : l.labels = (offsets 0 actions).reverse)
    (distinct : (actions.filterMap Action.label?).Nodup) (name : String) :
    l.offset? name = (offsets 0 actions).lookup name := by
  rw [Listing.offset?, left]
  apply lookup_reverse
  rwa [map_fst_offsets]

/-- What the first pass leaves of items that pass has the addresses of the reference. -/
theorem knows_of_labels (items : List Item) (passes : ∀ item ∈ items, item.action.Passes)
    (distinct : ((addresses Memory.romBase items).map Prod.fst).Nodup) (l : Listing)
    (left : l.labels = (offsets 0 (items.map Item.action)).reverse) :
    l.Knows (addresses Memory.romBase items) := by
  intro name
  have table := addresses_eq items passes 0
  rw [Nat.add_zero] at table
  rw [map_fst_addresses] at distinct
  have known := l.offset?_of_labels left distinct name
  rw [table, lookup_map, Listing.address, known]
  cases (offsets 0 (items.map Item.action)).lookup name with
  | none => exact ⟨.unresolvedLabel name, rfl, rfl⟩
  | some offset =>
    simp only [Option.map_some, Option.bind_some, below?]
    by_cases small : Memory.romBase + offset < 0x1000
    · simp [small]
    · simp only [small, dite_false]
      exact ⟨.labelTooFar name, rfl, rfl⟩

/-! ## Programs -/

theorem except_mapM_append {α β ε : Type} (f : α → Except ε β) (first second : List α) :
    (first ++ second).mapM f =
      match first.mapM f with
      | .error e => .error e
      | .ok done =>
        match second.mapM f with
        | .error e => .error e
        | .ok rest => .ok (done ++ rest) := by
  rw [List.mapM_append]
  cases first.mapM f with
  | error e => rfl
  | ok done => cases second.mapM f <;> rfl

theorem passes_of_mapM_bytes? (labels : List (String × Nat)) (items : List Item)
    (blocks : List (List UInt8)) (found : items.mapM (bytes? labels) = some blocks) :
    ∀ item ∈ items, item.action.Passes := by
  induction items generalizing blocks with
  | nil => exact List.forall_mem_nil _
  | cons item items ih =>
    rw [List.mapM_cons, Option.bind_eq_bind, Option.bind_eq_some_iff] at found
    obtain ⟨block, first, found⟩ := found
    rw [Option.bind_eq_bind, Option.bind_eq_some_iff] at found
    obtain ⟨rest, others, _⟩ := found
    exact List.forall_mem_cons.mpr ⟨(linked_of_bytes? (l := {}) item block first).1, ih rest others⟩

/-- The chunks of items that pass are linked to the bytes of the reference. -/
theorem mapM_resolve (knows : l.Knows labels) (items : List Item)
    (passes : ∀ item ∈ items, item.action.Passes) :
    match items.mapM (bytes? labels) with
    | some blocks =>
      ∃ parts, ((items.map Item.action).flatMap Action.chunks).mapM l.resolve = .ok parts ∧
        parts.flatten = blocks.flatten
    | none =>
      ∃ e, ((items.map Item.action).flatMap Action.chunks).mapM l.resolve = .error e ∧ e.isOwn := by
  induction items with
  | nil => exact ⟨[], rfl, rfl⟩
  | cons item items ih =>
    obtain ⟨first, others⟩ := List.forall_mem_cons.mp passes
    have rest := ih others
    rw [List.map_cons, List.flatMap_cons, except_mapM_append, List.mapM_cons]
    cases found : bytes? labels item with
    | none =>
      obtain fails | ⟨e, failed, own⟩ := not_linked_of_bytes? knows item found
      · exact absurd first fails
      · exact ⟨e, by rw [failed], own⟩
    | some block =>
      obtain ⟨parts, linked, same⟩ := (linked_of_bytes? item block found).2 knows
      cases more : items.mapM (bytes? labels) with
      | none =>
        rw [more] at rest
        obtain ⟨e, failed, own⟩ := rest
        exact ⟨e, by rw [linked, failed], own⟩
      | some blocks =>
        rw [more] at rest
        obtain ⟨others, linkedOthers, sameOthers⟩ := rest
        refine ⟨parts ++ others, by rw [linked, linkedOthers], ?_⟩
        rw [List.flatten_append, same, sameOthers]
        rfl

theorem assemble?_eq (items : List Item) :
    assemble? items =
      if ((addresses Memory.romBase items).map Prod.fst).Nodup then
        match items.mapM (bytes? (addresses Memory.romBase items)) with
        | none => none
        | some blocks =>
          if blocks.flatten.length ≤ Memory.capacity - Memory.romBase then some blocks.flatten
          else none
      else none := by
  have base : 0x200 = Memory.romBase := rfl
  have rest : 3584 = Memory.capacity - Memory.romBase := rfl
  rw [assemble?, base, rest]
  by_cases distinct : ((addresses Memory.romBase items).map Prod.fst).Nodup
  · rw [guard, if_pos distinct, if_pos distinct]
    cases items.mapM (bytes? (addresses Memory.romBase items)) with
    | none => rfl
    | some blocks =>
      change (guard (blocks.flatten.length ≤ Memory.capacity - Memory.romBase) >>= fun _ =>
        some blocks.flatten) = _
      by_cases room : blocks.flatten.length ≤ Memory.capacity - Memory.romBase
      · rw [guard, if_pos room]
        exact (if_pos room).symm
      · rw [guard, if_neg room]
        exact (if_neg room).symm
  · rw [guard, if_neg distinct, if_neg distinct]
    rfl

theorem link_apply (l : Listing) :
    l.link =
      match l.chunks.toList.mapM l.resolve with
      | .error e => .error e
      | .ok parts =>
        if Memory.capacity - Memory.romBase < parts.flatten.length then
          .error (.programTooLarge parts.flatten.length)
        else .ok parts.flatten := by
  rw [Listing.link]
  cases l.chunks.toList.mapM l.resolve with
  | error e => rfl
  | ok parts =>
    change (if Memory.capacity - Memory.romBase < parts.flatten.length then _ else _ :
      Except Error (List UInt8)) = _
    by_cases tooLarge : Memory.capacity - Memory.romBase < parts.flatten.length
    · rw [if_pos tooLarge]
      exact (if_pos tooLarge).symm
    · rw [if_neg tooLarge]
      exact (if_neg tooLarge).symm

/-- What the first pass leaves of items that pass has their addresses and their chunks. -/
theorem left_of_items (items : List Item) (passes : ∀ item ∈ items, item.action.Passes)
    (distinct : ((addresses Memory.romBase items).map Prod.fst).Nodup) (l : Listing)
    (alike : l.Alike (({} : Listing).after (items.map Item.action))) :
    l.Knows (addresses Memory.romBase items) ∧
      l.chunks.toList = (items.map Item.action).flatMap Action.chunks := by
  constructor
  · refine knows_of_labels items passes distinct l ?_
    rw [alike.labels, Listing.labels_after]
    exact List.append_nil _
  · rw [alike.chunks, Listing.chunks_after]
    rfl

/-- Where the reference has bytes for all items, they are the program, if it is not too large. -/
theorem link_of_blocks (items : List Item) (passes : ∀ item ∈ items, item.action.Passes)
    (distinct : ((addresses Memory.romBase items).map Prod.fst).Nodup) (l : Listing)
    (alike : l.Alike (({} : Listing).after (items.map Item.action))) (blocks : List (List UInt8))
    (found : items.mapM (bytes? (addresses Memory.romBase items)) = some blocks) :
    l.link =
      if Memory.capacity - Memory.romBase < blocks.flatten.length then
        .error (.programTooLarge blocks.flatten.length)
      else .ok blocks.flatten := by
  obtain ⟨knows, chunks⟩ := left_of_items items passes distinct l alike
  have linked := mapM_resolve knows items passes
  rw [found] at linked
  obtain ⟨parts, done, same⟩ := linked
  rw [link_apply, chunks, done]
  simp only [same]

/-- What the first pass leaves of items that pass is linked to the program of the reference. -/
theorem link_eq (items : List Item) (passes : ∀ item ∈ items, item.action.Passes)
    (distinct : ((addresses Memory.romBase items).map Prod.fst).Nodup) (l : Listing)
    (alike : l.Alike (({} : Listing).after (items.map Item.action))) :
    match assemble? items with
    | some program => l.link = .ok program
    | none => ∃ e, l.link = .error e ∧ e.isOwn := by
  rw [assemble?_eq, if_pos distinct]
  cases found : items.mapM (bytes? (addresses Memory.romBase items)) with
  | none =>
    -- Linking resolves all chunks before it looks at the length.
    obtain ⟨knows, chunks⟩ := left_of_items items passes distinct l alike
    have linked := mapM_resolve knows items passes
    rw [found] at linked
    obtain ⟨e, failed, own⟩ := linked
    exact ⟨e, by rw [link_apply, chunks, failed], own⟩
  | some blocks =>
    rw [link_of_blocks items passes distinct l alike blocks found]
    dsimp only
    by_cases room : blocks.flatten.length ≤ Memory.capacity - Memory.romBase
    · rw [if_pos room, if_neg (Nat.not_lt.mpr room)]
    · rw [if_neg room, if_pos (Nat.not_le.mp room)]
      exact ⟨.programTooLarge blocks.flatten.length, rfl, rfl⟩

/-- Items run through if they pass and their labels are distinct. -/
theorem runs_iff_items (items : List Item) :
    ({} : Listing).Runs (items.map Item.action) ↔
      (∀ item ∈ items, item.action.Passes) ∧
      ((addresses Memory.romBase items).map Prod.fst).Nodup := by
  rw [Listing.runs_iff, map_fst_addresses, List.forall_mem_map]
  constructor
  · rintro ⟨passes, distinct, _⟩
    exact ⟨passes, distinct⟩
  · rintro ⟨passes, distinct⟩
    exact ⟨passes, distinct, fun name _ => rfl⟩

theorem runs_of_assemble? (items : List Item) (program : List UInt8)
    (found : assemble? items = some program) :
    ({} : Listing).Runs (items.map Item.action) := by
  rw [assemble?_eq] at found
  by_cases distinct : ((addresses Memory.romBase items).map Prod.fst).Nodup
  · rw [if_pos distinct] at found
    cases each : items.mapM (bytes? (addresses Memory.romBase items)) with
    | none =>
      rw [each] at found
      cases found
    | some blocks =>
      exact (runs_iff_items items).mpr ⟨passes_of_mapM_bytes? _ items blocks each, distinct⟩
  · rw [if_neg distinct] at found
    cases found

/-! ## Modules -/

theorem assemble_apply (modules : List Module) :
    assemble modules =
      match FirstPass.processAll modules {} with
      | .ok () l => l.link
      | .error e _ => .error e := by
  rw [assemble, assembleNoting]
  cases FirstPass.processAll modules {} <;> rfl

/-- Where the reference has a program for the items of modules, they are assembled to it. -/
theorem assemble_of_some (modules : List Module) (items : List (List Item))
    (read : List.Forall₂ (fun m items => m.items = .ok items) modules items) (program : List UInt8)
    (found : assemble? items.flatten = some program) : assemble modules = .ok program := by
  have runs := runs_of_assemble? items.flatten program found
  obtain ⟨passes, distinct⟩ := (runs_iff_items items.flatten).mp runs
  obtain ⟨l, processed, alike⟩ := FirstPass.processAll_of_runs modules items read {} runs
  have linked := link_eq items.flatten passes distinct l alike
  rw [found] at linked
  rw [assemble_apply, processed]
  exact linked

/-- Where it has none, assembly fails: in the first pass with the fault of an item, or in
    linking. -/
theorem assemble_of_none (modules : List Module) (items : List (List Item))
    (read : List.Forall₂ (fun m items => m.items = .ok items) modules items)
    (missing : assemble? items.flatten = none) :
    ∃ e, assemble modules = .error e ∧
      (e.isOwn ∨ ∃ item ∈ items.flatten, ∃ before : Listing,
      before.fault? item.action = some e) := by
  rw [assemble_apply]
  by_cases runs : ({} : Listing).Runs (items.flatten.map Item.action)
  · obtain ⟨passes, distinct⟩ := (runs_iff_items items.flatten).mp runs
    obtain ⟨l, processed, alike⟩ := FirstPass.processAll_of_runs modules items read {} runs
    have linked := link_eq items.flatten passes distinct l alike
    rw [missing] at linked
    obtain ⟨e, failed, own⟩ := linked
    rw [processed]
    exact ⟨e, failed, .inl own⟩
  · obtain ⟨e, l, processed, found⟩ := FirstPass.processAll_of_not_runs modules items read {} runs
    rw [processed]
    exact ⟨e, rfl, .inr found⟩

end ChipEight.Assembly
