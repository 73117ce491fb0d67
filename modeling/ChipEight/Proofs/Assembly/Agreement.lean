import ChipEight.Proofs.Assembly.Errors
import ChipEight.Proofs.Assembly.RowReading

/-!
# Agreement with the reference

Modules that are written line by line are assembled to what the reference makes of their items. If
there is no program for them in the reference, they fail with an error about the program: numbers of
ordinary length never have too many digits for one.
-/

namespace ChipEight.Assembly

open Reference

/-! ## Numbers of ordinary length -/

theorem value_lt (literal : Literal) : literal.value < 16 ^ literal.digits.length := by
  have base : literal.radix.base ≤ 16 := by cases literal.radix <;> decide
  -- The value so far is any, so that the induction goes through.
  have fold (digits : List Char) (n : Nat) :
      digits.foldl (fun value c => value * literal.radix.base + digitValue c) n <
      (n + 1) * 16 ^ digits.length := by
    induction digits generalizing n with
    | nil => simp
    | cons c digits ih =>
      have digit := Numeral.digitValue_lt c
      have scaled : n * literal.radix.base ≤ n * 16 := Nat.mul_le_mul_left n base
      calc
        _ < (n * literal.radix.base + digitValue c + 1) * 16 ^ digits.length := ih _
        _ ≤ (n + 1) * 16 * 16 ^ digits.length := Nat.mul_le_mul_right _ (by omega)
        _ = (n + 1) * 16 ^ (c :: digits).length := by
            rw [List.length_cons, Nat.pow_succ', Nat.mul_assoc]
  have bound := fold literal.digits 0
  rwa [Nat.zero_add, Nat.one_mul] at bound

/-- The most digits that a number of ordinary length has. -/
def ordinaryLength : Nat := 1000

/-- A number of digits for which no number is too long, in whichever radix. -/
def safeLength : Nat := 3500

theorem isReadable_of_safe (literal : Literal) (short : literal.digits.length ≤ safeLength) :
    literal.isReadable := by
  rw [Literal.isReadable]
  have enough : safeLength ≤ Decimal.digitLimit := by decide
  split
  · exact decide_eq_true (Nat.le_trans short enough)
  · rfl
  · rfl

theorem tenTo_pow (m n : Nat) :
    Decimal.tenTo m ^ n = Decimal.tenTo (m * n) := (Nat.pow_mul 10 m n).symm

/-- Nine hexadecimal digits take no more than eleven decimal ones. -/
theorem sixteen_pow_le (n : Nat) : 16 ^ (9 * n) ≤ Decimal.tenTo (11 * n) := by
  have nine : 16 ^ 9 ≤ Decimal.tenTo 11 := by decide
  calc
    16 ^ (9 * n) = (16 ^ 9) ^ n := Nat.pow_mul 16 9 n
    _ ≤ Decimal.tenTo 11 ^ n := Nat.pow_le_pow_left nine n
    _ = Decimal.tenTo (11 * n) := tenTo_pow 11 n

theorem isWritable_of_length_le (literal : Literal) (n : Nat)
    (short : literal.digits.length ≤ 9 * n) (room : 11 * n ≤ Decimal.digitLimit) :
    Decimal.isWritable literal.value := by
  apply decide_eq_true
  calc
    _ < 16 ^ literal.digits.length := value_lt literal
    _ ≤ 16 ^ (9 * n) := Nat.pow_le_pow_right (by decide) short
    _ ≤ Decimal.tenTo (11 * n) := sixteen_pow_le n
    _ ≤ Decimal.tenTo Decimal.digitLimit := Decimal.tenTo_mono room

theorem isWritable_of_safe (literal : Literal) (short : literal.digits.length ≤ safeLength) :
    Decimal.isWritable literal.value :=
  isWritable_of_length_le literal 389 (Nat.le_trans short (by decide)) (by decide)

theorem isReadable_of_short (literal : Literal) (short : literal.digits.length ≤ ordinaryLength) :
    literal.isReadable :=
  isReadable_of_safe literal (Nat.le_trans short (by decide))

theorem isWritable_of_short (literal : Literal) (short : literal.digits.length ≤ ordinaryLength) :
    Decimal.isWritable literal.value :=
  isWritable_of_safe literal (Nat.le_trans short (by decide))

theorem isWritable_of_register (x : Register) : Decimal.isWritable x.val := by
  have enough : 16 ≤ Decimal.tenTo 4 := by decide
  have small : ((x.val : Nat) : Int).natAbs < Decimal.tenTo 4 := Nat.lt_of_lt_of_le x.isLt enough
  exact Decimal.isWritable_of_lt small (by decide)

theorem isWritable_of_target (template : Int) (target : Target)
    (writable : ∀ literal ∈ target.literals, Decimal.isWritable literal.value) :
    ∀ operand ∈ (target.action template).operands, Decimal.isWritable operand.2 := by
  cases target with
  | label name => exact List.forall_mem_nil _
  | number literal => exact List.forall_mem_singleton.mpr (writable literal List.mem_cons_self)

/-- If no number of an item is too long for a message, then none of its operands is. -/
theorem isWritable_of_literals (item : Item)
    (writable : ∀ literal ∈ item.literals, Decimal.isWritable literal.value) :
    ∀ operand ∈ item.action.operands, Decimal.isWritable operand.2 := by
  cases item with
  | label name | unknown text => exact List.forall_mem_nil _
  | command command =>
    cases command with
    | data values =>
      rw [Item.action, Action.operands, List.forall_mem_map, List.forall_mem_map]
      exact writable
    | operation op =>
      cases op with
      | sys target | jump target | call target | loadIndex target | jumpOffset target =>
        exact isWritable_of_target _ target writable
      | skipEqual x literal | skipUnequal x literal | load x literal | add x literal
      | random x literal =>
        exact List.forall_mem_cons.mpr ⟨isWritable_of_register x,
          List.forall_mem_singleton.mpr (writable literal List.mem_cons_self)⟩
      | draw x y literal =>
        rw [Item.action, issue, Action.operands, List.forall_mem_cons, List.forall_mem_cons,
          List.forall_mem_singleton]
        exact ⟨isWritable_of_register x, isWritable_of_register y,
          writable literal List.mem_cons_self⟩
      | clear | ret => exact List.forall_mem_nil _
      | skipSame x y | skipDifferent x y | copy x y | or x y | and x y | xor x y | addRegister x y
      | sub x y
      | subFrom x y | shiftRight x y | shiftLeft x y =>
        rw [Item.action, issue, Action.operands, List.forall_mem_cons, List.forall_mem_singleton]
        exact ⟨isWritable_of_register x, isWritable_of_register y⟩
      | skipPressed x | skipReleased x | readDelay x | waitKey x | setDelay x | setSound x
      | addIndex x
      | loadGlyph x | storeDecimal x | storeRegisters x | loadRegisters x =>
        rw [Item.action, issue, Action.operands, List.forall_mem_singleton]
        exact isWritable_of_register x

theorem isWritable_of_operand (item : Item)
    (short : ∀ literal ∈ item.literals, literal.digits.length ≤ ordinaryLength) :
    ∀ operand ∈ item.action.operands, Decimal.isWritable operand.2 :=
  isWritable_of_literals item fun literal mem => isWritable_of_short literal (short literal mem)

/-! ## Modules of lines -/

/-- Whether the text of a module is lines with line ends between them, which hold the items. -/
def Module.Holds (m : Module) (items : List Item) : Prop :=
  ∃ parts lines,
    List.Forall₂ Line parts lines ∧ m.text.toList = ['\n'].intercalate lines ∧ items = parts.flatten

theorem Module.Holds.itemsOf {m : Module} {items : List Item} (holds : m.Holds items) :
    itemsOf m.text = items := by
  obtain ⟨parts, lines, areLines, isText, rfl⟩ := holds
  rw [← itemsOf_of_lines areLines, textOf, ← isText, String.ofList_toList]

theorem Module.Holds.items {m : Module} {items : List Item} (holds : m.Holds items)
    (short : ∀ item ∈ items, ∀ literal ∈ item.literals, literal.digits.length ≤ ordinaryLength) :
    m.items = .ok items := by
  rw [← holds.itemsOf] at short ⊢
  apply items_of_readable
  exact fun item itemMem literal mem => isReadable_of_short literal (short item itemMem literal mem)

theorem Module.Holds.assembleText {text : String} {items : List Item} {program : List UInt8}
    (holds : Module.Holds { text } items)
    (short : ∀ item ∈ items, ∀ literal ∈ item.literals, literal.digits.length ≤ ordinaryLength)
    (found : assemble? items = some program) : assembleText text = .ok program := by
  refine assemble_of_some [{ text }] [items] (.cons (holds.items short) .nil) program ?_
  rwa [List.flatten_cons, List.flatten_nil, List.append_nil]

/-- Modules of lines are assembled to the program that the reference makes of their items. If it
    makes none, they fail with an error about the program. -/
theorem assemble_of_lines (modules : List Module) (programs : List (List Item))
    (written : List.Forall₂ Module.Holds modules programs)
    (short : ∀ item ∈ programs.flatten, ∀ literal ∈ item.literals,
      literal.digits.length ≤ ordinaryLength) :
    match assemble? programs.flatten with
    | some program => assemble modules = .ok program
    | none => ∃ e, assemble modules = .error e ∧ e.isOwn := by
  have read : List.Forall₂ (fun (m : Module) items => m.items = .ok items) modules programs := by
    induction written with
    | nil => exact .nil
    | @cons m items modules programs holds _ ih =>
      rw [List.flatten_cons, List.forall_mem_append] at short
      exact .cons (holds.items short.1) (ih short.2)
  cases found : assemble? programs.flatten with
  | some program => exact assemble_of_some modules programs read program found
  | none =>
    obtain ⟨e, failed, own | ⟨item, mem, before, fault⟩⟩ :=
      assemble_of_none modules programs read found
    · exact ⟨e, failed, own⟩
    · obtain own | ⟨_, operand, outside, notWritable⟩ := isOwn_of_fault? before item e fault
      · exact ⟨e, failed, own⟩
      · -- A number of ordinary length has a message.
        have writable :=
          isWritable_of_operand item (short item mem) operand (List.mem_of_find?_eq_some outside)
        rw [notWritable] at writable
        cases writable

/-- A program of two modules, the first of which jumps to a label of the second, with numbers in
    every radix. -/
theorem assemble_of_lines_forward :
    assemble [⟨"main", "start:\nJP end // go on\nDB 010, 0B11"⟩, ⟨"library", "\nend: rnd vA , 0x0F"⟩] =
      .ok [0x12, 0x04, 10, 3, 0xCA, 0x0F] := by
  have jump : (Command.operation (.jump (.label "end"))).Spelled ["JP".toList, "end".toList] :=
    spellsLine_one_iff.mpr ⟨_, _, spellsWord_self "JP",
      .label (.intro 'e' "nd".toList rfl (List.all_eq_true.mp rfl)), rfl⟩
  have data : (Command.data [⟨.decimal, "010".toList⟩, ⟨.binary, "11".toList⟩]).Spelled
      ["DB".toList, "010".toList, [','], "0B11".toList] :=
    ⟨List.cons_ne_nil _ _, spellsLine_two_iff.mpr ⟨_, _, _, spellsWord_self "DB",
      .decimal "010".toList (by decide) (List.all_eq_true.mp rfl),
      .binary 'B' "11".toList rfl (by decide) (List.all_eq_true.mp rfl), rfl⟩⟩
  have random : (Command.operation (.random 10 ⟨.hexadecimal, "0F".toList⟩)).Spelled
      ["rnd".toList, "vA".toList, [','], "0x0F".toList] :=
    spellsLine_two_iff.mpr ⟨_, _, _, by decide, .intro 'v' 'A' (.inr rfl) rfl,
      .hexadecimal 'x' "0F".toList rfl (by decide) (List.all_eq_true.mp rfl), rfl⟩
  have main : Module.Holds ⟨"main", "start:\nJP end // go on\nDB 010, 0B11"⟩
      [.label "start", .command (.operation (.jump (.label "end"))),
        .command (.data [⟨.decimal, "010".toList⟩, ⟨.binary, "11".toList⟩])] := by
    refine ⟨[[.label "start"], [.command (.operation (.jump (.label "end")))],
        [.command (.data [⟨.decimal, "010".toList⟩, ⟨.binary, "11".toList⟩])]],
      ["start:".toList, "JP end // go on".toList, "DB 010, 0B11".toList],
      .cons ?_ (.cons ?_ (.cons ?_ .nil)), by decide, rfl⟩
    · exact .label (.intro 's' "tart".toList rfl (List.all_eq_true.mp rfl)) (by decide)
        (spaced_label "start".toList)
    · have remark : Remark ([' '] ++ '/' :: '/' :: " go on".toList) :=
        .comment blank_space (by decide)
      exact .command jump (spaced_intercalate _) remark
    · have spaced : Spaced true ["DB".toList, "010".toList, [','], "0B11".toList]
          "DB 010, 0B11".toList :=
        .cons [] (List.forall_mem_nil _) (fun _ => .inl rfl) (.cons [' '] blank_space nofun
          (.cons [] (List.forall_mem_nil _) (fun _ => .inr rfl) (.cons [' '] blank_space nofun .nil)))
      exact .command data spaced (.blank (List.forall_mem_nil _))
  have library : Module.Holds ⟨"library", "\nend: rnd vA , 0x0F"⟩
      [.label "end", .command (.operation (.random 10 ⟨.hexadecimal, "0F".toList⟩))] := by
    refine ⟨[[], [.label "end", .command (.operation (.random 10 ⟨.hexadecimal, "0F".toList⟩))]],
      [[], "end: rnd vA , 0x0F".toList], .cons ?_ (.cons ?_ .nil), by decide, rfl⟩
    · exact .remark (.blank (List.forall_mem_nil _))
    · have spaced : Spaced true ["rnd".toList, "vA".toList, [','], "0x0F".toList]
          " rnd vA , 0x0F".toList :=
        .cons [' '] blank_space nofun (.cons [' '] blank_space nofun (.cons [' '] blank_space nofun
          (.cons [' '] blank_space nofun .nil)))
      exact .labelled (.intro 'e' "nd".toList rfl (List.all_eq_true.mp rfl)) (by decide)
        (spaced_label "end".toList) random spaced (.blank (List.forall_mem_nil _))
  exact assemble_of_lines _ _ (.cons main (.cons library .nil)) (by decide)

end ChipEight.Assembly
