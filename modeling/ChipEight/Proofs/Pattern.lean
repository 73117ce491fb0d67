import ChipEight.Proofs.Opcode

/-!
# Patterns of opcodes

The manual writes an operation as a pattern such as `8XY4`: a digit stands for itself, and a letter
for a part of an operand. `patterns` is its table. It was written apart from the decoder, and here
the two agree: a word is decoded exactly if it matches a pattern (`decode?_isSome_iff`), and then to
the operation of that pattern (`matches_iff_of_decode?`).
-/

namespace ChipEight.Opcode

/-! ## Matching -/

/-- The nibbles of a word, the leading one first. -/
def nibbles (word : Nat) : List Nat :=
  [word / 0x1000, word / 0x100 % 16, word / 0x10 % 16, word % 16]

/-- The value of a hexadecimal digit. The letters that stand for operands are none. -/
def digit? (c : Char) : Option Nat :=
  if '0' ≤ c ∧ c ≤ '9' then some (c.toNat - '0'.toNat)
  else if 'A' ≤ c ∧ c ≤ 'F' then some (c.toNat - 'A'.toNat + 10)
  else none

/-- Whether nibbles are those that a pattern has digits for. -/
def fits : List Char → List Nat → Bool
  | [], [] => true
  | c :: pattern, nibble :: nibbles => (digit? c).all (· == nibble) && fits pattern nibbles
  | _, _ => false

def Matches (pattern : String) (word : Nat) : Prop :=
  fits pattern.toList (nibbles word)

instance (pattern : String) (word : Nat) : Decidable (Matches pattern word) :=
  inferInstanceAs (Decidable (_ = true))

/-! ## The table -/

def patterns : List String :=
  ["0NNN", "00E0", "00EE", "1NNN", "2NNN", "3XNN", "4XNN", "5XY0", "6XNN", "7XNN",
    "8XY0", "8XY1", "8XY2", "8XY3", "8XY4", "8XY5", "8XY6", "8XY7", "8XYE", "9XY0",
    "ANNN", "BNNN", "CXNN", "DXYN", "EX9E", "EXA1",
    "FX07", "FX0A", "FX15", "FX18", "FX1E", "FX29", "FX33", "FX55", "FX65"]

/-- Whether a word matches one of some patterns. -/
def MatchesOne (patterns : List String) (word : Nat) : Prop :=
  ∃ pattern ∈ patterns, Matches pattern word

instance (patterns : List String) (word : Nat) : Decidable (MatchesOne patterns word) := by
  unfold MatchesOne
  infer_instance

/-- The pattern of an operation. -/
def pattern : Instruction → String
  | .sys _ => "0NNN"
  | .clear => "00E0"
  | .ret => "00EE"
  | .jump _ => "1NNN"
  | .call _ => "2NNN"
  | .skipEqual _ _ => "3XNN"
  | .skipUnequal _ _ => "4XNN"
  | .skipSame _ _ => "5XY0"
  | .load _ _ => "6XNN"
  | .add _ _ => "7XNN"
  | .copy _ _ => "8XY0"
  | .or _ _ => "8XY1"
  | .and _ _ => "8XY2"
  | .xor _ _ => "8XY3"
  | .addRegister _ _ => "8XY4"
  | .sub _ _ => "8XY5"
  | .shiftRight _ _ => "8XY6"
  | .subFrom _ _ => "8XY7"
  | .shiftLeft _ _ => "8XYE"
  | .skipDifferent _ _ => "9XY0"
  | .loadIndex _ => "ANNN"
  | .jumpOffset _ => "BNNN"
  | .random _ _ => "CXNN"
  | .draw _ _ _ => "DXYN"
  | .skipPressed _ => "EX9E"
  | .skipReleased _ => "EXA1"
  | .readDelay _ => "FX07"
  | .waitKey _ => "FX0A"
  | .setDelay _ => "FX15"
  | .setSound _ => "FX18"
  | .addIndex _ => "FX1E"
  | .loadGlyph _ => "FX29"
  | .storeDecimal _ => "FX33"
  | .storeRegisters _ => "FX55"
  | .loadRegisters _ => "FX65"

/-- One instruction of each operation. -/
def oneOfEach : List Instruction :=
  [.sys 0, .clear, .ret, .jump 0, .call 0, .skipEqual 0 0, .skipUnequal 0 0, .skipSame 0 0,
    .load 0 0, .add 0 0, .copy 0 0, .or 0 0, .and 0 0, .xor 0 0, .addRegister 0 0, .sub 0 0,
    .shiftRight 0 0, .subFrom 0 0, .shiftLeft 0 0, .skipDifferent 0 0, .loadIndex 0,
    .jumpOffset 0, .random 0 0, .draw 0 0 0, .skipPressed 0, .skipReleased 0, .readDelay 0,
    .waitKey 0, .setDelay 0, .setSound 0, .addIndex 0, .loadGlyph 0, .storeDecimal 0,
    .storeRegisters 0, .loadRegisters 0]

theorem patterns_eq : patterns = oneOfEach.map pattern := rfl

theorem pattern_mem (i : Instruction) : pattern i ∈ patterns := by
  cases i <;> simp [pattern, patterns]

theorem exists_of_mem_patterns {p : String} (listed : p ∈ patterns) :
    ∃ i : Instruction, pattern i = p := by
  rw [patterns_eq] at listed
  obtain ⟨i, -, same⟩ := List.mem_map.mp listed
  exact ⟨i, same⟩

/-! ## The patterns of words -/

/-- The word of an instruction matches the pattern of its operation. -/
theorem matches_word (i : Instruction) : Matches (pattern i) i.word := by
  cases i with
  | clear | ret => decide
  | jump target => simp [Matches, fits, nibbles, digit?, pattern, Instruction.word]
  | sys target | call target | loadIndex target | jumpOffset target =>
    have := target.isLt
    simp [Matches, fits, nibbles, digit?, pattern, Instruction.word]
    omega
  | skipEqual x value | skipUnequal x value | load x value | add x value | random x value =>
    have := x.isLt
    have := value.toNat_lt
    simp [Matches, fits, nibbles, digit?, pattern, Instruction.word]
    omega
  | draw x y rows =>
    have := x.isLt
    have := y.isLt
    have := rows.isLt
    simp [Matches, fits, nibbles, digit?, pattern, Instruction.word]
    omega
  | skipSame x y | skipDifferent x y | copy x y | or x y | and x y | xor x y | addRegister x y
  | sub x y | subFrom x y | shiftRight x y | shiftLeft x y =>
    have := x.isLt
    have := y.isLt
    simp [Matches, fits, nibbles, digit?, pattern, Instruction.word]
    omega
  | skipPressed x | skipReleased x | readDelay x | waitKey x | setDelay x | setSound x | addIndex x
  | loadGlyph x | storeDecimal x | storeRegisters x | loadRegisters x =>
    have := x.isLt
    simp [Matches, fits, nibbles, digit?, pattern, Instruction.word]
    omega

/-- The register that an operation names first. -/
def register? : Instruction → Option Register
  | .skipEqual x _ | .skipUnequal x _ | .skipSame x _ | .load x _ | .add x _ | .copy x _ | .or x _
  | .and x _ | .xor x _ | .addRegister x _ | .sub x _ | .shiftRight x _ | .subFrom x _
  | .shiftLeft x _ | .skipDifferent x _ | .random x _ | .draw x _ _ | .skipPressed x
  | .skipReleased x | .readDelay x | .waitKey x | .setDelay x | .setSound x | .addIndex x
  | .loadGlyph x | .storeDecimal x | .storeRegisters x | .loadRegisters x => some x
  | .sys _ | .clear | .ret | .jump _ | .call _ | .loadIndex _ | .jumpOffset _ => none

/-- That register is in the second nibble of the word. -/
theorem x_word {i : Instruction} {r : Register} (named : register? i = some r) : x i.word = r := by
  have read : (instruction? i.template i.word).bind register? = some r := by
    rw [instruction?_word, Option.bind_some, named]
  cases i <;> first | exact Option.some.inj read | cases read

/-- Outside family 0 a word that matches the pattern of an operation has the template of it. -/
theorem template?_of_matches {word : Nat} (bound : word < 0x10000) (notZero : 0x1000 ≤ word)
    (i : Instruction) (h : Matches (pattern i) word) : template? word = some i.template := by
  cases i with
  | sys _ | clear | ret =>
    simp [Matches, fits, nibbles, digit?, pattern] at h
    omega
  | jump _ | call _ | loadIndex _ | jumpOffset _ | skipEqual _ _ | skipUnequal _ _ | load _ _
  | add _ _ | random _ _ | draw _ _ _ =>
    simp [Matches, fits, nibbles, digit?, pattern] at h
    simp only [Operation.template]
    exact template?_of_family 1 bound (by decide) rfl (by omega) (by omega)
  | skipSame _ _ | skipDifferent _ _ | copy _ _ | or _ _ | and _ _ | xor _ _ | addRegister _ _
  | sub _ _ | subFrom _ _ | shiftRight _ _ | shiftLeft _ _ =>
    simp [Matches, fits, nibbles, digit?, pattern] at h
    simp only [Operation.template]
    exact template?_of_family 0x10 bound (by decide) rfl (by omega) (by omega)
  | skipPressed _ | skipReleased _ | readDelay _ | waitKey _ | setDelay _ | setSound _ | addIndex _
  | loadGlyph _ | storeDecimal _ | storeRegisters _ | loadRegisters _ =>
    simp [Matches, fits, nibbles, digit?, pattern] at h
    simp only [Operation.template]
    exact template?_of_family 0x100 bound (by decide) rfl (by omega) (by omega)

theorem instruction?_template (i : Instruction) (word : Int) :
    ∃ j, instruction? i.template word = some j := by
  cases i <;> exact ⟨_, rfl⟩

theorem exists_template? {word : Nat} (bound : word < 0x10000)
    (h : MatchesOne patterns word) : ∃ i : Instruction, template? word = some i.template := by
  by_cases isZero : word < 0x1000
  · rw [template?_family_zero word isZero]
    split
    · next whole =>
      obtain rfl | rfl := whole
      · exact ⟨.clear, rfl⟩
      · exact ⟨.ret, rfl⟩
    · exact ⟨.sys 0, rfl⟩
  · obtain ⟨p, listed, fitting⟩ := h
    obtain ⟨i, rfl⟩ := exists_of_mem_patterns listed
    exact ⟨i, template?_of_matches bound (by omega) i fitting⟩

/-- Exactly the words that match a pattern are those of instructions. -/
theorem decode?_isSome_iff {word : Nat} (bound : word < 0x10000) :
    (∃ i, decode? word = some i) ↔ MatchesOne patterns word := by
  constructor
  · rintro ⟨i, decoded⟩
    refine ⟨pattern i, pattern_mem i, ?_⟩
    rw [← word_of_decode? bound decoded]
    exact matches_word i
  · intro h
    obtain ⟨i, found⟩ := exists_template? bound h
    rw [decode?_of_template found]
    exact instruction?_template i word

/-! ## Patterns that exclude each other -/

/-- Whether two patterns have different digits in one place. -/
def clash : List Char → List Char → Bool
  | c :: p, d :: q =>
    ((digit? c).any fun n => (digit? d).any (n != ·)) || clash p q
  | _, _ => false

/-- No nibbles fit two patterns that clash. -/
theorem not_fits_of_clash {p q : List Char} {nibbles : List Nat} (clashes : clash p q)
    (first : fits p nibbles) : ¬ fits q nibbles := by
  intro second
  induction nibbles generalizing p q with
  | nil => cases p <;> cases q <;> simp_all [clash, fits]
  | cons nibble nibbles ih =>
    cases p with
    | nil => cases clashes
    | cons c p =>
      cases q with
      | nil => cases second
      | cons d q =>
        simp only [clash, fits, Bool.and_eq_true, Bool.or_eq_true] at clashes first second
        obtain here | there := clashes
        · -- The nibble would have to be both digits.
          cases isDigit : digit? c with
          | none => simp [isDigit] at here
          | some n =>
            cases isOther : digit? d with
            | none => simp [isDigit, isOther] at here
            | some k => simp_all
        · exact ih there first.2 second.2

/-- All patterns exclude each other, but for the two words that the pattern of a routine has in
    common with other operations. -/
theorem patterns_clash :
    ∀ p ∈ patterns, ∀ q ∈ patterns, p ≠ "0NNN" →
      p = q ∨ clash p.toList q.toList ∨ q = "0NNN" ∧ (p = "00E0" ∨ p = "00EE") := by
  decide

/-- A word that is decoded to an instruction matches the pattern of its operation, and no other one
    but that of a routine. -/
theorem matches_iff_of_decode? {word : Nat} {i : Instruction} (bound : word < 0x10000)
    (decoded : decode? word = some i) {p : String} (listed : p ∈ patterns)
    (notRoutine : p ≠ "0NNN") : Matches p word ↔ pattern i = p := by
  have own : Matches (pattern i) word := by
    rw [← word_of_decode? bound decoded]
    exact matches_word i
  constructor
  · intro h
    obtain same | clashes | ⟨isRoutine, whole⟩ :=
      patterns_clash p listed (pattern i) (pattern_mem i) notRoutine
    · exact same.symm
    · exact absurd own (not_fits_of_clash clashes h)
    · -- The two words are decoded to the other operations.
      obtain rfl | rfl := whole
      · obtain rfl : word = 0x00E0 := by
          simp [Matches, fits, nibbles, digit?] at h
          omega
        obtain rfl : Operation.clear = i := Option.some.inj decoded
        rfl
      · obtain rfl : word = 0x00EE := by
          simp [Matches, fits, nibbles, digit?] at h
          omega
        obtain rfl : Operation.ret = i := Option.some.inj decoded
        rfl
  · rintro rfl
    exact own

end ChipEight.Opcode
