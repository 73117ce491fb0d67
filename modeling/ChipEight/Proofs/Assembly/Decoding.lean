import ChipEight.Proofs.Assembly.Agreement
import ChipEight.Proofs.Assembly.Coverage
import ChipEight.Proofs.Assembly.Placement

/-!
# Words of a text are decoded

The grammar, the table of words and the decoder agree: what is written as an operation is decoded as
that operation, with the operands that were written (`decode?_of_assembleText`). Only the two
addresses that make a `SYS` look like another operation are an exception, and no label stands for
one of them, because labels lie in the program.
-/

namespace ChipEight.Assembly

open Reference

variable {labels : List (String × Nat)} {op : Operation Literal Literal Target} {i : Instruction}

/-! ## Forms -/

/-- Resolving the operands of an operation does not change its form. -/
theorem template_of_resolved? (resolved : resolved? labels op = some i) :
    i.template = op.template := by
  cases op with
  | sys _ | jump _ | call _ | loadIndex _ | jumpOffset _ | skipEqual _ _ | skipUnequal _ _
  | load _ _ | add _ _ | random _ _ | draw _ _ _ =>
    obtain ⟨operand, _, rfl⟩ := Option.map_eq_some_iff.mp resolved
    rfl
  | _ =>
    obtain rfl := Option.some.inj resolved
    rfl

/-- A command of one register whose keyword has a form with a second one is that form with register
    0 in its place. -/
theorem command_of_one_register {word : String}
    (shift : Register → Register → Operation Literal Literal Target) {command : Command}
    {keyword register : Token}
    (only : Form.all.filter (fun f => f.pieces.head? = some (.word word)) =
      [.withOptional word shift])
    (proper : (Piece.word word).isProper) (isWord : SpellsWord word keyword)
    (spelled : command.Spelled [keyword, register]) :
    ∃ x, SpellsRegister x register ∧ command = .operation (shift x 0) := by
  obtain ⟨f, mem, spells⟩ := Command.spelled_iff.mp spelled
  obtain ⟨other, pieces, isHead⟩ := exists_word_of_isHeaded (headed_forms f mem)
  have sameWord : other = word := by
    obtain ⟨pieces, build⟩ := f
    subst isHead
    cases spells with
    | word isOther _ => exact String.toList_inj.mp (isOther.symm.trans (isWord.map_capital proper))
  have found : f ∈ Form.all.filter fun f => f.pieces.head? = some (.word word) := by
    rw [List.mem_filter, isHead, sameWord]
    exact ⟨mem, decide_eq_true rfl⟩
  rw [only, List.mem_singleton] at found
  subst found
  cases spells with
  | word _ operands =>
    cases operands with
    | register isRegister second =>
      cases second with
      | omitted nothing =>
        cases nothing
        exact ⟨_, isRegister, rfl⟩

/-! ## Collisions -/

/-- The instruction that the word of an operation is decoded to: the one that it stands for, unless
    it is a `SYS` of a number that makes it look like an operation without operands. -/
def readBack (op : Operation Literal Literal Target) (i : Instruction) : Instruction :=
  match op with
  | .sys (.number l) =>
    if number l = 0x0E0 then .clear else if number l = 0x0EE then .ret else i
  | _ => i

theorem not_collides_of_template (notSys : i.template ≠ 0) : ¬ Opcode.Collides i := by
  cases i with
  | sys target => exact absurd rfl notSys
  | _ => exact id

/-- The address of a label is that of a place in the program. -/
theorem romBase_le_of_lookup {items : List Item} {name : String} {address : Nat}
    (found : (addresses Memory.romBase items).lookup name = some address) :
    Memory.romBase ≤ address := by
  obtain ⟨earlier, _, _, rfl⟩ := exists_of_lookup_addresses items Memory.romBase name address found
  exact Nat.le_add_right _ _

theorem decode?_resolved {items : List Item}
    (resolved : resolved? (addresses Memory.romBase items) op = some i) :
    Opcode.decode? i.word = some (readBack op i) := by
  cases op with
  | sys target =>
    obtain ⟨address, found, rfl⟩ := Option.map_eq_some_iff.mp resolved
    cases target with
    | number l =>
      have value : address.val = number l := below?_eq_some_iff.mp found
      simp only [readBack, ← value]
      split
      next clear =>
        rw [show Instruction.word (.sys address) = 0x00E0 from clear]
        rfl
      next notClear =>
        split
        next ret =>
          rw [show Instruction.word (.sys address) = 0x00EE from ret]
          rfl
        next notRet => exact Opcode.decode?_word _ fun collides => collides.elim notClear notRet
    | label name =>
      obtain ⟨place, known, same⟩ := Option.bind_eq_some_iff.mp found
      have inProgram := romBase_le_of_lookup known
      rw [← below?_eq_some_iff.mp same, Memory.romBase] at inProgram
      -- The program lies behind both of the addresses that could be mistaken.
      refine Opcode.decode?_word _ fun collides => ?_
      obtain clear | ret := collides <;> omega
  | _ =>
    have form := template_of_resolved? resolved
    exact Opcode.decode?_word i (not_collides_of_template (by rw [form]; nofun))

/-! ## Texts -/

/-- A text that is assembled is made of its items, and each operation among them lies in the program
    as a word that is decoded to that operation with its operands as they are written: a register
    that is left out counts as register 0, and a label as its address. -/
theorem decode?_of_assembleText (text : String) (program : List UInt8)
    (assembled : assembleText text = .ok program) :
    MadeOf text.toList (itemsOf text) ∧
      ∀ earlier op later, itemsOf text = earlier ++ .command (.operation op) :: later →
        ∃ i word, resolved? (addresses Memory.romBase (itemsOf text)) op = some i ∧
          i.template = op.template ∧
          (∀ keyword register, (Command.operation op).Spelled [keyword, register] →
            (SpellsWord "SHR" keyword →
              ∃ x, SpellsRegister x register ∧ i = .shiftRight x 0) ∧
            (SpellsWord "SHL" keyword →
              ∃ x, SpellsRegister x register ∧ i = .shiftLeft x 0)) ∧
          wordAt program (extent earlier) = some word ∧
          Opcode.decode? word = some (readBack op i) := by
  have found := assemble?_of_assembleText text program assembled
  refine ⟨madeOf_itemsOf text (known_of_assemble? found), fun earlier op later split => ?_⟩
  obtain ⟨i, resolved, isPlaced⟩ := word_placed found split
  refine ⟨i, i.word, resolved, template_of_resolved? resolved, ?_, isPlaced,
    decode?_resolved resolved⟩
  intro keyword register spelled
  constructor
  · intro isRight
    obtain ⟨x, isRegister, same⟩ := command_of_one_register .shiftRight rfl rfl isRight spelled
    obtain rfl := Command.operation.inj same
    exact ⟨x, isRegister, (Option.some.inj resolved).symm⟩
  · intro isLeft
    obtain ⟨x, isRegister, same⟩ := command_of_one_register .shiftLeft rfl rfl isLeft spelled
    obtain rfl := Command.operation.inj same
    exact ⟨x, isRegister, (Option.some.inj resolved).symm⟩

/-- A shift of one register, and a `SYS` whose word is that of another operation. -/
theorem decode?_of_assembleText_exception :
    assembleText "SHR V3\nSYS 0xE0" = .ok [0x83, 0x06, 0x00, 0xE0] ∧
      (∃ word, wordAt [0x83, 0x06, 0x00, 0xE0] 0 = some word ∧
        Opcode.decode? word = some (.shiftRight 3 0)) ∧
      ∃ word, wordAt [0x83, 0x06, 0x00, 0xE0] 2 = some word ∧
        Opcode.decode? word = some .clear := by
  have shift : (Command.operation (.shiftRight 3 0)).Spelled ["SHR".toList, "V3".toList] :=
    .inr ⟨rfl, spellsLine_one_iff.mpr ⟨_, _, spellsWord_self "SHR",
      .intro 'V' '3' (.inl rfl) rfl, rfl⟩⟩
  have sys : (Command.operation (.sys (.number ⟨.hexadecimal, "E0".toList⟩))).Spelled
      ["SYS".toList, "0xE0".toList] :=
    spellsLine_one_iff.mpr ⟨_, _, spellsWord_self "SYS",
      .number (.hexadecimal 'x' "E0".toList rfl (by decide) (List.all_eq_true.mp rfl)), rfl⟩
  have holds : Module.Holds { text := "SHR V3\nSYS 0xE0" }
      [.command (.operation (.shiftRight 3 0)),
        .command (.operation (.sys (.number ⟨.hexadecimal, "E0".toList⟩)))] := by
    refine ⟨[[_], [_]], ["SHR V3".toList, "SYS 0xE0".toList], .cons ?_ (.cons ?_ .nil), by decide,
      rfl⟩
    · exact .command shift (spaced_intercalate _) (.blank (List.forall_mem_nil _))
    · exact .command sys (spaced_intercalate _) (.blank (List.forall_mem_nil _))
  have items := holds.itemsOf
  have assembled : assembleText "SHR V3\nSYS 0xE0" = .ok [0x83, 0x06, 0x00, 0xE0] :=
    holds.assembleText (by decide) (by decide)
  obtain ⟨_, decoded⟩ := decode?_of_assembleText _ _ assembled
  rw [items] at decoded
  obtain ⟨_, first, resolved, _, _, isFirst, decodedFirst⟩ := decoded [] _ _ rfl
  obtain rfl := Option.some.inj resolved
  obtain ⟨_, second, _, _, _, isSecond, decodedSecond⟩ := decoded [_] _ _ rfl
  exact ⟨assembled, ⟨first, isFirst, decodedFirst⟩, second, isSecond, decodedSecond⟩

end ChipEight.Assembly
