import ChipEight.Proofs.Assembly.Agreement
import ChipEight.Proofs.Assembly.Placement
import ChipEight.Text.Hexadecimal

/-!
# Disassembly

Every word that is decoded can be written as a line of an assembler text: the keyword of its
operation, its registers, and its numbers in hexadecimal. The text of such lines is assembled to the
words again, as long as they fit into memory (`assembleText_of_disassemble?`).
-/

namespace ChipEight

/-! ## Lines -/

namespace Assembly

/-- The digits of a number with a width to fill. -/
def hexDigits (width n : Nat) : List Char := (Text.Hexadecimal.ofInt n width).toList

def numberToken (width n : Nat) : Token := '0' :: 'x' :: hexDigits width n

def registerToken (x : Register) : Token := 'V' :: hexDigits 1 x.val

end Assembly

namespace Instruction

open Assembly

def keyword : Instruction → String
  | .sys _ => "SYS"
  | .clear => "CLS"
  | .ret => "RET"
  | .jump _ | .jumpOffset _ => "JP"
  | .call _ => "CALL"
  | .skipEqual _ _ | .skipSame _ _ => "SE"
  | .skipUnequal _ _ | .skipDifferent _ _ => "SNE"
  | .load _ _ | .copy _ _ | .loadIndex _ | .readDelay _ | .waitKey _ | .setDelay _ | .setSound _
  | .loadGlyph _ | .storeDecimal _ | .storeRegisters _ | .loadRegisters _ => "LD"
  | .add _ _ | .addRegister _ _ | .addIndex _ => "ADD"
  | .or _ _ => "OR"
  | .and _ _ => "AND"
  | .xor _ _ => "XOR"
  | .sub _ _ => "SUB"
  | .subFrom _ _ => "SUBN"
  | .shiftRight _ _ => "SHR"
  | .shiftLeft _ _ => "SHL"
  | .random _ _ => "RND"
  | .draw _ _ _ => "DRW"
  | .skipPressed _ => "SKP"
  | .skipReleased _ => "SKNP"

/-- The operands of an instruction as tokens: numbers have as many digits as they can have at
    most. -/
def operandTokens : Instruction → List Token
  | .clear | .ret => []
  | .sys target | .jump target | .call target => [numberToken 3 target.val]
  | .loadIndex target => ["I".toList, numberToken 3 target.val]
  | .jumpOffset target => ["V0".toList, numberToken 3 target.val]
  | .skipEqual x value | .skipUnequal x value | .load x value | .add x value | .random x value =>
    [registerToken x, numberToken 2 value.toNat]
  | .skipSame x y | .skipDifferent x y | .copy x y | .or x y | .and x y | .xor x y
  | .addRegister x y | .sub x y | .subFrom x y | .shiftRight x y | .shiftLeft x y =>
    [registerToken x, registerToken y]
  | .draw x y rows => [registerToken x, registerToken y, numberToken 1 rows.val]
  | .skipPressed x | .skipReleased x => [registerToken x]
  | .readDelay x => [registerToken x, "DT".toList]
  | .waitKey x => [registerToken x, "K".toList]
  | .setDelay x => ["DT".toList, registerToken x]
  | .setSound x => ["ST".toList, registerToken x]
  | .addIndex x => ["I".toList, registerToken x]
  | .loadGlyph x => ["F".toList, registerToken x]
  | .storeDecimal x => ["B".toList, registerToken x]
  | .storeRegisters x => ["[I]".toList, registerToken x]
  | .loadRegisters x => [registerToken x, "[I]".toList]

/-- The line that an instruction is written as, such as `DRW V1, V2, 0xF`. -/
def line (i : Instruction) : List Char :=
  match i.operandTokens with
  | [] => i.keyword.toList
  | operands => i.keyword.toList ++ ' ' :: [',', ' '].intercalate operands

end Instruction

/-- The text of words with a line for each, if all of them are decoded. -/
def disassemble? (words : List Nat) : Option String :=
  (words.mapM fun word : Nat => Opcode.decode? word).map fun instructions =>
    String.ofList (['\n'].intercalate (instructions.map Instruction.line))

namespace Text.Hexadecimal

/-! ## Digits -/

open Assembly

theorem digitValue_digitChar (n : Nat) (small : n < 16) :
    digitValue (Nat.digitChar n).toUpper = n ∧ isHexDigit (Nat.digitChar n).toUpper := by
  revert n
  decide

/-- The digits of a number are hexadecimal and come to the number. -/
theorem foldl_digits (n : Nat) :
    (digits n).foldl (fun value c => value * 16 + digitValue c) 0 = n ∧
      ∀ c ∈ digits n, isHexDigit c := by
  induction n using Nat.strongRecOn with
  | ind n ih =>
    by_cases small : n < 16
    · obtain ⟨value, isDigit⟩ := digitValue_digitChar n small
      rw [digits, Nat.toDigits_of_lt_base small, List.map_singleton]
      exact ⟨(Nat.zero_add _).trans value, List.forall_mem_singleton.mpr isDigit⟩
    · -- The last digit comes behind those of a smaller number.
      obtain ⟨value, areDigits⟩ := ih (n / 16) (by omega)
      obtain ⟨lastValue, isDigit⟩ := digitValue_digitChar (n % 16) (Nat.mod_lt n (by decide))
      rw [digits, Nat.toDigits_of_base_le (by decide) (Nat.not_lt.mp small), List.map_append,
        List.map_singleton, ← digits]
      rw [List.foldl_append, value, List.forall_mem_append]
      refine ⟨?_, areDigits, List.forall_mem_singleton.mpr isDigit⟩
      change n / 16 * 16 + digitValue _ = n
      omega

theorem length_digits_le {n k : Nat} (positive : 0 < k) (small : n < 16 ^ k) :
    (digits n).length ≤ k := by
  rw [digits, List.length_map]
  exact (Nat.length_toDigits_le_iff (by decide) positive).mpr small

end Text.Hexadecimal

namespace Assembly

open Reference

theorem hexDigits_eq (width n : Nat) :
    hexDigits width n = List.replicate (width - (Text.Hexadecimal.digits n).length) '0' ++
      Text.Hexadecimal.digits n := by
  have notNegative : ¬ (n : Int) < 0 := by omega
  rw [hexDigits, Text.Hexadecimal.ofInt, String.toList_ofList]
  simp only [if_neg notNegative, List.length_nil, Nat.sub_zero, List.nil_append,
    Int.natAbs_natCast]

theorem areDigits_hexDigits (width n : Nat) : ∀ c ∈ hexDigits width n, isHexDigit c := by
  rw [hexDigits_eq, List.forall_mem_append]
  refine ⟨fun c mem => ?_, (Text.Hexadecimal.foldl_digits n).2⟩
  rw [List.eq_of_mem_replicate mem]
  rfl

theorem length_hexDigits {width n : Nat} (positive : 0 < width) (small : n < 16 ^ width) :
    (hexDigits width n).length = width := by
  have short := Text.Hexadecimal.length_digits_le positive small
  rw [hexDigits_eq, List.length_append, List.length_replicate]
  omega

/-- A number as a literal of a text. -/
def hexadecimal (width n : Nat) : Literal := ⟨.hexadecimal, hexDigits width n⟩

theorem value_hexadecimal (width n : Nat) : (hexadecimal width n).value = n := by
  have zeros (k : Nat) :
      (List.replicate k '0').foldl (fun value c => value * 16 + digitValue c) 0 = 0 := by
    induction k with
    | zero => rfl
    | succ k ih => exact ih
  simp only [Literal.value, hexadecimal, Radix.base]
  rw [hexDigits_eq, List.foldl_append, zeros, (Text.Hexadecimal.foldl_digits n).1]

/-! ## Spellings -/

theorem spells_hexadecimal (width n : Nat) (positive : 0 < width) :
    SpellsLiteral (hexadecimal width n) (numberToken width n) := by
  have areDigits : ∀ c ∈ hexDigits width n, Numeral.isDigit 16 c :=
    (Numeral.areDigits_iff .hexadecimal).mpr (areDigits_hexDigits width n)
  refine .hexadecimal 'x' (hexDigits width n) rfl (fun nothing => ?_) areDigits
  have filled := congrArg List.length (hexDigits_eq width n)
  rw [nothing, List.length_append, List.length_replicate, List.length_nil] at filled
  omega

theorem spells_registerToken (x : Register) : SpellsRegister x (registerToken x) := by
  obtain ⟨value, isDigit⟩ := Text.Hexadecimal.digitValue_digitChar x.val x.isLt
  have single : hexDigits 1 x.val = [(Nat.digitChar x.val).toUpper] := by
    rw [hexDigits_eq, Text.Hexadecimal.digits, Nat.toDigits_of_lt_base x.isLt]
    rfl
  rw [registerToken, single]
  exact .intro 'V' _ (.inl rfl) (Numeral.digit?_eq_some_iff.mpr ⟨isDigit, value⟩)

/-- The tokens of the line of an instruction. -/
def tokens (i : Instruction) : List Token := i.keyword.toList :: i.operandTokens.intersperse [',']

/-- The line of an instruction is its tokens with blanks between them, but none before a comma. -/
theorem spaced_line (i : Instruction) : Spaced true (tokens i) i.line := by
  have operands (first : Token) (others : List Token) (tight : Bool) :
      Spaced tight ((first :: others).intersperse [','])
        (' ' :: [',', ' '].intercalate (first :: others)) := by
    induction others generalizing first tight with
    | nil =>
      have alone : Spaced tight [first] ([' '] ++ first ++ []) := .cons [' '] blank_space nofun .nil
      rw [List.append_nil] at alone
      rw [List.intercalate_singleton]
      exact alone
    | cons second others ih =>
      have rest : Spaced (isMark first) ([','] :: (second :: others).intersperse [','])
          ([] ++ [','] ++ (' ' :: [',', ' '].intercalate (second :: others))) :=
        .cons [] (List.forall_mem_nil _) (fun _ => .inr rfl) (ih second true)
      have whole : Spaced tight (first :: _) ([' '] ++ first ++ _) :=
        .cons [' '] blank_space nofun rest
      rw [List.intercalate_cons_cons, List.append_assoc]
      exact whole
  have keyword {tokens : List Token} {text : List Char}
      (behind : Spaced (isMark i.keyword.toList) tokens text) :
      Spaced true (i.keyword.toList :: tokens) (i.keyword.toList ++ text) :=
    .cons [] (List.forall_mem_nil _) (fun _ => .inl rfl) behind
  rw [tokens, Instruction.line]
  cases i.operandTokens with
  | nil =>
    have alone := keyword .nil
    rw [List.append_nil] at alone
    exact alone
  | cons first others => exact keyword (operands first others _)

/-! ## Operations as they are written -/

/-- Whether the line of an instruction is read as an operation that stands for this
    instruction. -/
structure Writes (op : Operation Literal Literal Target) (i : Instruction) : Prop where
  spelled : (Command.operation op).Spelled (tokens i)
  resolved : ∀ labels, resolved? labels op = some i
  short : ∀ literal ∈ (Command.operation op).literals, literal.digits.length ≤ ordinaryLength

theorem byte?_hexadecimal (value : UInt8) : byte? (hexadecimal 2 value.toNat) = some value :=
  byte?_eq_some_iff.mpr (value_hexadecimal 2 value.toNat).symm

theorem address?_hexadecimal (labels : List (String × Nat)) (target : Address) :
    address? labels (.number (hexadecimal 3 target.val)) = some target :=
  address?_number_eq_some_iff.mpr (value_hexadecimal 3 target.val).symm

theorem spells_address (target : Address) :
    SpellsTarget (.number (hexadecimal 3 target.val)) (numberToken 3 target.val) :=
  .number (spells_hexadecimal 3 target.val (by decide))

theorem spells_byte (value : UInt8) :
    SpellsLiteral (hexadecimal 2 value.toNat) (numberToken 2 value.toNat) :=
  spells_hexadecimal 2 value.toNat (by decide)

theorem short_hexadecimal {width n : Nat} (positive : 0 < width) (small : n < 16 ^ width)
    (ordinary : width ≤ ordinaryLength) :
    ∀ literal ∈ [hexadecimal width n], literal.digits.length ≤ ordinaryLength := by
  rw [List.forall_mem_singleton, hexadecimal, length_hexDigits positive small]
  exact ordinary

theorem line_of_one {word : String} {first : Token → Prop} {a : Token} {written : List Token}
    (isFirst : first a) (isLine : written = [word.toList, a]) : SpellsLine word [first] written :=
  spellsLine_one_iff.mpr ⟨_, a, spellsWord_self word, isFirst, isLine⟩

theorem line_of_two {word : String} {first second : Token → Prop} {a b : Token}
    {written : List Token} (isFirst : first a) (isSecond : second b)
    (isLine : written = [word.toList, a, [','], b]) : SpellsLine word [first, second] written :=
  spellsLine_two_iff.mpr ⟨_, a, b, spellsWord_self word, isFirst, isSecond, isLine⟩

/-- An operation without numbers stands for itself. -/
theorem writes_of_plain {i : Instruction} (op : Operation Literal Literal Target)
    (spelled : SpellsOperation op (tokens i)) (resolved : ∀ labels, resolved? labels op = some i)
    (noNumbers : (Command.operation op).literals = []) : ∃ op, Writes op i := by
  refine ⟨op, spelled, resolved, ?_⟩
  rw [noNumbers]
  exact List.forall_mem_nil _

/-- An operation whose last operand is an address. -/
theorem writes_of_address {make : Address → Instruction} {target : Address}
    (op : Target → Operation Literal Literal Target)
    (spelled : SpellsOperation (op (.number (hexadecimal 3 target.val))) (tokens (make target)))
    (resolved : ∀ labels t, resolved? labels (op t) = (address? labels t).map make)
    (numbers : ∀ t, (Command.operation (op t)).literals = t.literals) :
    ∃ op, Writes op (make target) := by
  refine ⟨op (.number (hexadecimal 3 target.val)), spelled, fun labels => ?_, ?_⟩
  · rw [resolved, address?_hexadecimal, Option.map_some]
  · rw [numbers]
    exact short_hexadecimal (by decide) target.isLt (by decide)

/-- An operation of a register and a byte. -/
theorem writes_of_byte {make : Register → UInt8 → Instruction} {x : Register} {value : UInt8}
    (op : Register → Literal → Operation Literal Literal Target)
    (spelled : SpellsOperation (op x (hexadecimal 2 value.toNat)) (tokens (make x value)))
    (resolved : ∀ labels l, resolved? labels (op x l) = (byte? l).map (make x))
    (numbers : ∀ l, (Command.operation (op x l)).literals = [l]) :
    ∃ op, Writes op (make x value) := by
  refine ⟨op x (hexadecimal 2 value.toNat), spelled, fun labels => ?_, ?_⟩
  · rw [resolved, byte?_hexadecimal, Option.map_some]
  · rw [numbers]
    exact short_hexadecimal (by decide) value.toNat_lt (by decide)

/-- The line of every instruction is read as an operation that stands for it. -/
theorem exists_writes (i : Instruction) : ∃ op, Writes op i := by
  cases i with
  | sys target =>
    exact writes_of_address .sys (line_of_one (spells_address target) rfl)
      (fun _ _ => rfl) fun _ => rfl
  | clear =>
    exact writes_of_plain .clear (spellsLine_zero_iff.mpr ⟨_, spellsWord_self _, rfl⟩)
      (fun _ => rfl) rfl
  | ret =>
    exact writes_of_plain .ret (spellsLine_zero_iff.mpr ⟨_, spellsWord_self _, rfl⟩)
      (fun _ => rfl) rfl
  | jump target =>
    exact writes_of_address .jump (line_of_one (spells_address target) rfl)
      (fun _ _ => rfl) fun _ => rfl
  | jumpOffset target =>
    exact writes_of_address .jumpOffset
      (line_of_two (spells_registerToken 0) (spells_address target) rfl) (fun _ _ => rfl) fun _ => rfl
  | call target =>
    exact writes_of_address .call (line_of_one (spells_address target) rfl)
      (fun _ _ => rfl) fun _ => rfl
  | skipEqual x value =>
    exact writes_of_byte .skipEqual (line_of_two (spells_registerToken x) (spells_byte value) rfl)
      (fun _ _ => rfl) fun _ => rfl
  | skipSame x y =>
    exact writes_of_plain (.skipSame x y)
      (line_of_two (spells_registerToken x) (spells_registerToken y) rfl) (fun _ => rfl) rfl
  | skipUnequal x value =>
    exact writes_of_byte .skipUnequal (line_of_two (spells_registerToken x) (spells_byte value) rfl)
      (fun _ _ => rfl) fun _ => rfl
  | skipDifferent x y =>
    exact writes_of_plain (.skipDifferent x y)
      (line_of_two (spells_registerToken x) (spells_registerToken y) rfl) (fun _ => rfl) rfl
  | load x value =>
    exact writes_of_byte .load (line_of_two (spells_registerToken x) (spells_byte value) rfl)
      (fun _ _ => rfl) fun _ => rfl
  | copy x y =>
    exact writes_of_plain (.copy x y)
      (line_of_two (spells_registerToken x) (spells_registerToken y) rfl) (fun _ => rfl) rfl
  | loadIndex target =>
    exact writes_of_address .loadIndex
      (line_of_two (spellsWord_self "I") (spells_address target) rfl) (fun _ _ => rfl) fun _ => rfl
  | readDelay x =>
    exact writes_of_plain (.readDelay x)
      (line_of_two (spells_registerToken x) (spellsWord_self "DT") rfl) (fun _ => rfl) rfl
  | waitKey x =>
    exact writes_of_plain (.waitKey x)
      (line_of_two (spells_registerToken x) (spellsWord_self "K") rfl) (fun _ => rfl) rfl
  | setDelay x =>
    exact writes_of_plain (.setDelay x)
      (line_of_two (spellsWord_self "DT") (spells_registerToken x) rfl) (fun _ => rfl) rfl
  | setSound x =>
    exact writes_of_plain (.setSound x)
      (line_of_two (spellsWord_self "ST") (spells_registerToken x) rfl) (fun _ => rfl) rfl
  | loadGlyph x =>
    exact writes_of_plain (.loadGlyph x)
      (line_of_two (spellsWord_self "F") (spells_registerToken x) rfl) (fun _ => rfl) rfl
  | storeDecimal x =>
    exact writes_of_plain (.storeDecimal x)
      (line_of_two (spellsWord_self "B") (spells_registerToken x) rfl) (fun _ => rfl) rfl
  | storeRegisters x =>
    exact writes_of_plain (.storeRegisters x)
      (line_of_two (spellsWord_self "[I]") (spells_registerToken x) rfl) (fun _ => rfl) rfl
  | loadRegisters x =>
    exact writes_of_plain (.loadRegisters x)
      (line_of_two (spells_registerToken x) (spellsWord_self "[I]") rfl) (fun _ => rfl) rfl
  | add x value =>
    exact writes_of_byte .add (line_of_two (spells_registerToken x) (spells_byte value) rfl)
      (fun _ _ => rfl) fun _ => rfl
  | addRegister x y =>
    exact writes_of_plain (.addRegister x y)
      (line_of_two (spells_registerToken x) (spells_registerToken y) rfl) (fun _ => rfl) rfl
  | addIndex x =>
    exact writes_of_plain (.addIndex x)
      (line_of_two (spellsWord_self "I") (spells_registerToken x) rfl) (fun _ => rfl) rfl
  | or x y =>
    exact writes_of_plain (.or x y)
      (line_of_two (spells_registerToken x) (spells_registerToken y) rfl) (fun _ => rfl) rfl
  | and x y =>
    exact writes_of_plain (.and x y)
      (line_of_two (spells_registerToken x) (spells_registerToken y) rfl) (fun _ => rfl) rfl
  | xor x y =>
    exact writes_of_plain (.xor x y)
      (line_of_two (spells_registerToken x) (spells_registerToken y) rfl) (fun _ => rfl) rfl
  | sub x y =>
    exact writes_of_plain (.sub x y)
      (line_of_two (spells_registerToken x) (spells_registerToken y) rfl) (fun _ => rfl) rfl
  | subFrom x y =>
    exact writes_of_plain (.subFrom x y)
      (line_of_two (spells_registerToken x) (spells_registerToken y) rfl) (fun _ => rfl) rfl
  | shiftRight x y =>
    exact writes_of_plain (.shiftRight x y)
      (.inl (line_of_two (spells_registerToken x) (spells_registerToken y) rfl)) (fun _ => rfl) rfl
  | shiftLeft x y =>
    exact writes_of_plain (.shiftLeft x y)
      (.inl (line_of_two (spells_registerToken x) (spells_registerToken y) rfl)) (fun _ => rfl) rfl
  | random x mask =>
    exact writes_of_byte .random (line_of_two (spells_registerToken x) (spells_byte mask) rfl)
      (fun _ _ => rfl) fun _ => rfl
  | draw x y rows =>
    have nibble : nibble? (hexadecimal 1 rows.val) = some rows :=
      nibble?_eq_some_iff.mpr (value_hexadecimal 1 rows.val).symm
    refine ⟨.draw x y (hexadecimal 1 rows.val), ?_, fun _ => ?_, ?_⟩
    · exact spellsLine_three_iff.mpr ⟨_, _, _, _, spellsWord_self "DRW", spells_registerToken x,
        spells_registerToken y, spells_hexadecimal 1 rows.val (by decide), rfl⟩
    · rw [resolved?, Operation.traverse, nibble]
      rfl
    · exact short_hexadecimal (by decide) rows.isLt (by decide)
  | skipPressed x =>
    exact writes_of_plain (.skipPressed x) (line_of_one (spells_registerToken x) rfl)
      (fun _ => rfl) rfl
  | skipReleased x =>
    exact writes_of_plain (.skipReleased x) (line_of_one (spells_registerToken x) rfl)
      (fun _ => rfl) rfl

/-! ## Texts -/

/-- The items of operations. -/
def commands (ops : List (Operation Literal Literal Target)) : List Item :=
  ops.map fun op => .command (.operation op)

variable {ops : List (Operation Literal Literal Target)} {instructions : List Instruction}

theorem holds_of_writes (writes : List.Forall₂ Writes ops instructions) :
    Module.Holds { text := String.ofList (['\n'].intercalate (instructions.map Instruction.line)) }
      (commands ops) := by
  refine ⟨(commands ops).map fun item => [item], instructions.map Instruction.line, ?_, ?_,
    (List.flatMap_singleton' (commands ops)).symm⟩
  · rw [commands, List.map_map, List.forall₂_map_left_iff, List.forall₂_map_right_iff]
    refine writes.imp fun op i writes => ?_
    have line := Line.command writes.spelled (spaced_line i) (.blank (List.forall_mem_nil _))
    rwa [List.append_nil] at line
  · exact String.toList_ofList

theorem emitted?_of_writes (writes : List.Forall₂ Writes ops instructions)
    (labels : List (String × Nat)) :
    emitted? labels (commands ops) = some (instructions.flatMap fun i => wordBytes i.word) := by
  induction writes with
  | nil => rfl
  | @cons op i ops instructions first _ ih =>
    have block := (bytes?_operation op _).mpr ⟨i, first.resolved labels, rfl⟩
    exact (emitted?_cons _ _ _).mpr ⟨_, _, block, ih, rfl⟩

theorem short_of_writes (writes : List.Forall₂ Writes ops instructions) :
    ∀ item ∈ commands ops, ∀ literal ∈ item.literals, literal.digits.length ≤ ordinaryLength := by
  induction writes with
  | nil => exact List.forall_mem_nil _
  | cons first _ ih => exact List.forall_mem_cons.mpr ⟨first.short, ih⟩

/-- Where there are no labels, they have no addresses. -/
theorem addresses_commands (ops : List (Operation Literal Literal Target)) (base : Nat) :
    addresses base (commands ops) = [] := by
  induction ops generalizing base with
  | nil => rfl
  | cons op ops ih => exact ih (base + 2)

theorem extent_commands (ops : List (Operation Literal Literal Target)) :
    extent (commands ops) = 2 * ops.length := by
  induction ops with
  | nil => rfl
  | cons op ops ih =>
    have first : extent (commands (op :: ops)) = 2 + extent (commands ops) := extent_cons _ _
    rw [first, ih, List.length_cons]
    omega

/-- Words that are decoded are the words of instructions. -/
theorem exists_instructions (words : List Nat)
    (decodable : ∀ word ∈ words, word < 0x10000 ∧ (Opcode.decode? word).isSome) :
    ∃ instructions : List Instruction,
      (words.mapM fun word : Nat => Opcode.decode? word) = some instructions ∧
        words = instructions.map Instruction.word := by
  induction words with
  | nil => exact ⟨[], rfl, rfl⟩
  | cons word words ih =>
    obtain ⟨⟨bound, decoded⟩, others⟩ := List.forall_mem_cons.mp decodable
    obtain ⟨i, isDecoded⟩ := Option.isSome_iff_exists.mp decoded
    obtain ⟨instructions, areDecoded, areWords⟩ := ih others
    refine ⟨i :: instructions, ?_, ?_⟩
    · rw [List.mapM_cons, isDecoded, areDecoded]
      rfl
    · rw [List.map_cons, Opcode.word_of_decode? bound isDecoded, ← areWords]

theorem exists_forall₂_writes (instructions : List Instruction) :
    ∃ ops, List.Forall₂ Writes ops instructions := by
  induction instructions with
  | nil => exact ⟨[], .nil⟩
  | cons i instructions ih =>
    obtain ⟨op, first⟩ := exists_writes i
    obtain ⟨ops, others⟩ := ih
    exact ⟨op :: ops, .cons first others⟩

/-- Words that are decoded have a text, which is assembled to them again if there are no more than
    fit into memory. -/
theorem assembleText_of_disassemble? (words : List Nat)
    (decodable : ∀ word ∈ words, word < 0x10000 ∧ (Opcode.decode? word).isSome) :
    ∃ text, disassemble? words = some text ∧
      assembleText text =
        if words.length ≤ 1792 then .ok (words.flatMap wordBytes)
        else .error (.programTooLarge (2 * words.length)) := by
  obtain ⟨instructions, areDecoded, rfl⟩ := exists_instructions words decodable
  obtain ⟨ops, writes⟩ := exists_forall₂_writes instructions
  refine ⟨_, congrArg (Option.map _) areDecoded, ?_⟩
  have read := (holds_of_writes writes).items (short_of_writes writes)
  have distinct : ((addresses Memory.romBase (commands ops)).map Prod.fst).Nodup := by
    rw [addresses_commands]
    exact List.nodup_nil
  have emitted := emitted?_of_writes writes (addresses Memory.romBase (commands ops))
  have length := length_of_emitted? _ _ emitted
  rw [extent_commands, writes.length_eq] at length
  rw [assembleText_of_emitted _ _ read distinct _ emitted, length, List.flatMap_map,
    List.length_map]
  by_cases room : instructions.length ≤ 1792
  · rw [if_pos room, if_neg (by rw [Memory.capacity, Memory.romBase]; omega)]
  · rw [if_neg room, if_pos (by rw [Memory.capacity, Memory.romBase]; omega)]

/-- A routine that draws, with a shift and a `SYS`. -/
theorem assembleText_of_disassemble?_draw :
    disassemble? [0xD12F, 0x0ABC, 0x8AB6, 0x00EE] =
        some "DRW V1, V2, 0xF\nSYS 0xABC\nSHR VA, VB\nRET" ∧
      assembleText "DRW V1, V2, 0xF\nSYS 0xABC\nSHR VA, VB\nRET" =
        .ok [0xD1, 0x2F, 0x0A, 0xBC, 0x8A, 0xB6, 0x00, 0xEE] := by
  have written : disassemble? [0xD12F, 0x0ABC, 0x8AB6, 0x00EE] =
      some "DRW V1, V2, 0xF\nSYS 0xABC\nSHR VA, VB\nRET" := by decide
  obtain ⟨text, isText, assembled⟩ :=
    assembleText_of_disassemble? [0xD12F, 0x0ABC, 0x8AB6, 0x00EE] (by decide)
  obtain rfl := Option.some.inj (written.symm.trans isText)
  exact ⟨written, assembled⟩

end Assembly

end ChipEight
