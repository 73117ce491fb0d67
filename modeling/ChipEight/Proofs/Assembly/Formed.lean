import ChipEight.Proofs.Assembly.Spelling

/-!
# Commands in their forms

The assembler tries one form after the other on a text. How a form is spelled is said piece by
piece, and a command is spelled in one of the forms if and only if it is spelled as the table of the
operations has it (`Command.spelled_iff`).
-/

namespace ChipEight.Assembly

/-! ## Keywords -/

theorem capital_of_isUpper {x : Char} (upper : x.isUpper) : capital x = x ∧ capital x.toLower = x :=
  forall_isNameChar (P := fun x => x.isUpper → capital x = x ∧ capital x.toLower = x) (by decide)
    (by simp [isNameChar, Char.isAlphanum, Char.isAlpha, upper]) upper

theorem SpellsLetter.capital_eq {letter c : Char} (spells : SpellsLetter letter c)
    (proper : letter.isUpper ∨ letter = '[' ∨ letter = ']') : capital c = letter := by
  have same : capital letter = letter ∧ capital letter.toLower = letter := by
    obtain upper | rfl | rfl := proper
    · exact capital_of_isUpper upper
    · decide
    · decide
  obtain rfl | rfl | ⟨rfl, rfl⟩ | ⟨rfl, rfl⟩ := spells
  · exact same.1
  · exact same.2
  · rfl
  · rfl

theorem spellsLetter_capital (c : Char) : SpellsLetter (capital c) c := by
  rw [capital]
  split
  next dotless => exact .inr (.inr (.inl ⟨rfl, dotless⟩))
  split
  next long => exact .inr (.inr (.inr ⟨rfl, long⟩))
  obtain small | large := Nat.lt_or_ge c.toNat 0x80
  · exact forall_ascii (P := fun c => SpellsLetter c.toUpper c) (by decide) small
  · have stays : c.toUpper = c := by
      rw [Char.toUpper, dif_neg]
      intro isSmall
      have le : c.toNat ≤ 122 := isSmall.2
      omega
    exact .inl stays.symm

theorem map_capital_of_spellsLetters {letters : List Char} {token : Token}
    (spells : List.Forall₂ SpellsLetter letters token)
    (proper : ∀ x ∈ letters, x.isUpper ∨ x = '[' ∨ x = ']') : token.map capital = letters := by
  induction spells with
  | nil => rfl
  | cons spelled _ ih =>
    obtain ⟨first, others⟩ := List.forall_mem_cons.mp proper
    rw [List.map_cons, spelled.capital_eq first, ih others]

theorem spellsWord_of_map_capital {word : String} {token : Token}
    (same : token.map capital = word.toList) : SpellsWord word token := by
  rw [SpellsWord, ← same, List.forall₂_map_left_iff, List.forall₂_same]
  exact fun c _ => spellsLetter_capital c

theorem spellsWord_self (word : String) : SpellsWord word word.toList := by
  rw [SpellsWord, List.forall₂_same]
  exact fun c _ => .inl rfl

/-! ## Pieces -/

/-- The characters of a keyword. -/
def Piece.characters : Piece → List Char
  | .word text => text.toList
  | _ => []

/-- Whether a keyword is made of capital letters. -/
def Piece.isProper (p : Piece) : Bool := p.characters.all Char.isUpper && p != .word ""

theorem SpellsWord.map_capital {word : String} {token : Token} (spells : SpellsWord word token)
    (proper : (Piece.word word).isProper) : token.map capital = word.toList := by
  rw [Piece.isProper, Bool.and_eq_true, List.all_eq_true] at proper
  exact map_capital_of_spellsLetters spells fun x mem => .inl (proper.1 x mem)

theorem spellsIndex_iff {token : Token} :
    SpellsWord "[I]" token ↔ token.map capital = ['[', 'I', ']'] := by
  have proper : ∀ x ∈ ['[', 'I', ']'], x.isUpper ∨ x = '[' ∨ x = ']' := by
    rw [List.forall_mem_cons, List.forall_mem_cons, List.forall_mem_singleton]
    exact ⟨.inr (.inl rfl), .inl rfl, .inr (.inr rfl)⟩
  exact ⟨fun spells => map_capital_of_spellsLetters spells proper,
    fun same => spellsWord_of_map_capital same⟩

theorem spellsRegister_zero_iff {token : Token} :
    SpellsRegister 0 token ↔ ∃ letter, (letter = 'V' ∨ letter = 'v') ∧ token = [letter, '0'] := by
  constructor
  · intro spells
    obtain ⟨letter, digit, isLetter, isDigit⟩ := spells
    obtain ⟨isHex, value⟩ := Numeral.digit?_eq_some_iff.mp isDigit
    have isZero : digit = '0' :=
      forall_isNameChar (P := fun c => isHexDigit c → digitValue c = 0 → c = '0') (by decide)
        (isNameChar_of_isHexDigit isHex) isHex value
    exact ⟨letter, isLetter, by rw [isZero]⟩
  · intro zero
    obtain ⟨letter, isLetter, rfl⟩ := zero
    exact .intro letter '0' isLetter rfl

/-- Numbers with a comma in front of each. -/
inductive SpellsMore : List Literal → List Token → Prop
  | nil : SpellsMore [] []
  | cons {literal : Literal} {literals : List Literal} {token : Token} {tokens : List Token}
    (spelled : SpellsLiteral literal token) (others : SpellsMore literals tokens) :
    SpellsMore (literal :: literals) ([','] :: token :: tokens)

/-- Pieces with values that the builder makes into `a`. -/
inductive Spells {α : Type} : (ps : List Piece) → Builder α ps → List Token → α → Prop
  | nil (a : α) : Spells [] a [] a
  | word {ps : List Piece} {build : Builder α ps} {tokens : List Token} {a : α} {text : String}
    {token : Token} (spelled : token.map capital = text.toList)
    (others : Spells ps build tokens a) :
    Spells (.word text :: ps) build (token :: tokens) a
  | comma {ps : List Piece} {build : Builder α ps} {tokens : List Token} {a : α}
    (others : Spells ps build tokens a) :
    Spells (.comma :: ps) build ([','] :: tokens) a
  | memory {ps : List Piece} {build : Builder α ps} {tokens : List Token} {a : α} {token : Token}
    (spelled : token.map capital = ['[', 'I', ']']) (others : Spells ps build tokens a) :
    Spells (.memory :: ps) build (token :: tokens) a
  | registerZero {ps : List Piece} {build : Builder α ps} {tokens : List Token} {a : α}
    {letter : Char} (isLetter : letter = 'V' ∨ letter = 'v') (others : Spells ps build tokens a) :
    Spells (.registerZero :: ps) build ([letter, '0'] :: tokens) a
  | register {ps : List Piece} {build : Register → Builder α ps} {tokens : List Token} {a : α}
    {x : Register} {token : Token} (spelled : SpellsRegister x token)
    (others : Spells ps (build x) tokens a) :
    Spells (.register :: ps) build (token :: tokens) a
  /-- The register is left out. -/
  | omitted {ps : List Piece} {build : Register → Builder α ps} {tokens : List Token} {a : α}
    (others : Spells ps (build 0) tokens a) : Spells (.optionalRegister :: ps) build tokens a
  /-- The register is not left out. -/
  | given {ps : List Piece} {build : Register → Builder α ps} {tokens : List Token} {a : α}
    {x : Register} {token : Token} (spelled : SpellsRegister x token)
    (others : Spells ps (build x) tokens a) :
    Spells (.optionalRegister :: ps) build ([','] :: token :: tokens) a
  | number {ps : List Piece} {build : Literal → Builder α ps} {tokens : List Token} {a : α}
    {literal : Literal} {token : Token} (spelled : SpellsLiteral literal token)
    (others : Spells ps (build literal) tokens a) :
    Spells (.number :: ps) build (token :: tokens) a
  | target {ps : List Piece} {build : Target → Builder α ps} {tokens : List Token} {a : α}
    {target : Target} {token : Token} (spelled : SpellsTarget target token)
    (others : Spells ps (build target) tokens a) :
    Spells (.target :: ps) build (token :: tokens) a
  | numbers {ps : List Piece} {build : List Literal → Builder α ps} {tokens more : List Token}
    {a : α} {first : Literal} {rest : List Literal} {token : Token}
    (spelled : SpellsLiteral first token) (spelledMore : SpellsMore rest more)
    (others : Spells ps (build (first :: rest)) tokens a) :
    Spells (.numbers :: ps) build (token :: (more ++ tokens)) a

/-! ## Lines -/

section Lines

variable {word : String} {tokens : List Token} {first second third : Token → Prop}

theorem spellsLine_zero_iff :
    SpellsLine word [] tokens ↔ ∃ keyword, SpellsWord word keyword ∧ tokens = [keyword] := by
  constructor
  · intro line
    obtain ⟨keyword, _, isWord, ⟨⟩, rfl⟩ := line
    exact ⟨keyword, isWord, rfl⟩
  · intro parts
    obtain ⟨keyword, isWord, rfl⟩ := parts
    exact ⟨keyword, [], isWord, .nil, rfl⟩

theorem spellsLine_one_iff :
    SpellsLine word [first] tokens ↔
      ∃ keyword a, SpellsWord word keyword ∧ first a ∧ tokens = [keyword, a] := by
  constructor
  · intro line
    obtain ⟨keyword, _, isWord, _ | ⟨isFirst, ⟨⟩⟩, rfl⟩ := line
    exact ⟨keyword, _, isWord, isFirst, rfl⟩
  · intro parts
    obtain ⟨keyword, a, isWord, isFirst, rfl⟩ := parts
    exact ⟨keyword, [a], isWord, .cons isFirst .nil, rfl⟩

theorem spellsLine_two_iff :
    SpellsLine word [first, second] tokens ↔
      ∃ keyword a b, SpellsWord word keyword ∧ first a ∧ second b ∧
        tokens = [keyword, a, [','], b] := by
  constructor
  · intro line
    obtain ⟨keyword, _, isWord, _ | ⟨isFirst, _ | ⟨isSecond, ⟨⟩⟩⟩, rfl⟩ := line
    exact ⟨keyword, _, _, isWord, isFirst, isSecond, rfl⟩
  · intro parts
    obtain ⟨keyword, a, b, isWord, isFirst, isSecond, rfl⟩ := parts
    exact ⟨keyword, [a, b], isWord, .cons isFirst (.cons isSecond .nil), rfl⟩

theorem spellsLine_three_iff :
    SpellsLine word [first, second, third] tokens ↔
      ∃ keyword a b c, SpellsWord word keyword ∧ first a ∧ second b ∧ third c ∧
        tokens = [keyword, a, [','], b, [','], c] := by
  constructor
  · intro line
    obtain ⟨keyword, _, isWord, _ | ⟨isFirst, _ | ⟨isSecond, _ | ⟨isThird, ⟨⟩⟩⟩⟩, rfl⟩ := line
    exact ⟨keyword, _, _, _, isWord, isFirst, isSecond, isThird, rfl⟩
  · intro parts
    obtain ⟨keyword, a, b, c, isWord, isFirst, isSecond, isThird, rfl⟩ := parts
    exact ⟨keyword, [a, b, c], isWord, .cons isFirst (.cons isSecond (.cons isThird .nil)), rfl⟩

end Lines

/-! ## Operands -/

/-- A piece that one token spells: its values, the tokens that spell a value, and what the builder
    makes of it. -/
structure OneToken (α : Type) (p : Piece) where
  Value : Type
  Spelled : Value → Token → Prop
  fill (ps : List Piece) : Builder α (p :: ps) → Value → Builder α ps
  spells_iff {ps : List Piece} {build : Builder α (p :: ps)} {tokens : List Token} {a : α} :
    Spells (p :: ps) build tokens a ↔
      ∃ value token others, Spelled value token ∧ Spells ps (fill ps build value) others a ∧
        tokens = token :: others

namespace OneToken

variable {α : Type}

/-- A place that a keyword names. -/
def place (word : String) (proper : (Piece.word word).isProper) : OneToken α (.word word) where
  Value := Unit
  Spelled _ := SpellsWord word
  fill _ build _ := build
  spells_iff := by
    intro ps build tokens a
    constructor
    · intro spells
      cases spells with
      | word spelled others => exact ⟨(), _, _, spellsWord_of_map_capital spelled, others, rfl⟩
    · intro parts
      obtain ⟨_, _, _, spelled, others, rfl⟩ := parts
      exact .word (spelled.map_capital proper) others

def memory : OneToken α .memory where
  Value := Unit
  Spelled _ := SpellsWord "[I]"
  fill _ build _ := build
  spells_iff := by
    intro ps build tokens a
    constructor
    · intro spells
      cases spells with
      | memory spelled others => exact ⟨(), _, _, spellsIndex_iff.mpr spelled, others, rfl⟩
    · intro parts
      obtain ⟨_, _, _, spelled, others, rfl⟩ := parts
      exact .memory (spellsIndex_iff.mp spelled) others

def registerZero : OneToken α .registerZero where
  Value := Unit
  Spelled _ := SpellsRegister 0
  fill _ build _ := build
  spells_iff := by
    intro ps build tokens a
    constructor
    · intro spells
      cases spells with
      | registerZero isLetter others =>
        exact ⟨(), _, _, spellsRegister_zero_iff.mpr ⟨_, isLetter, rfl⟩, others, rfl⟩
    · intro parts
      obtain ⟨_, _, _, spelled, others, rfl⟩ := parts
      obtain ⟨letter, isLetter, rfl⟩ := spellsRegister_zero_iff.mp spelled
      exact .registerZero isLetter others

def register : OneToken α .register where
  Value := Register
  Spelled := SpellsRegister
  fill _ build x := build x
  spells_iff := by
    intro ps build tokens a
    constructor
    · intro spells
      cases spells with
      | register spelled others => exact ⟨_, _, _, spelled, others, rfl⟩
    · intro parts
      obtain ⟨_, _, _, spelled, others, rfl⟩ := parts
      exact .register spelled others

def number : OneToken α .number where
  Value := Literal
  Spelled := SpellsLiteral
  fill _ build literal := build literal
  spells_iff := by
    intro ps build tokens a
    constructor
    · intro spells
      cases spells with
      | number spelled others => exact ⟨_, _, _, spelled, others, rfl⟩
    · intro parts
      obtain ⟨_, _, _, spelled, others, rfl⟩ := parts
      exact .number spelled others

def target : OneToken α .target where
  Value := Target
  Spelled := SpellsTarget
  fill _ build target := build target
  spells_iff := by
    intro ps build tokens a
    constructor
    · intro spells
      cases spells with
      | target spelled others => exact ⟨_, _, _, spelled, others, rfl⟩
    · intro parts
      obtain ⟨_, _, _, spelled, others, rfl⟩ := parts
      exact .target spelled others

end OneToken

/-! ## Forms -/

section Forms

variable {α : Type} {word : String} {p q r : Piece} {tokens : List Token} {a : α}

theorem spells_nil_iff {build : α} : Spells [] build tokens a ↔ build = a ∧ tokens = [] := by
  constructor
  · intro spells
    cases spells
    exact ⟨rfl, rfl⟩
  · intro parts
    obtain ⟨rfl, rfl⟩ := parts
    exact .nil build

theorem OneToken.spells_last_iff {build : Builder α [p]} (last : OneToken α p) :
    Spells [p] build tokens a ↔
      ∃ x token, last.Spelled x token ∧ last.fill [] build x = a ∧ tokens = [token] := by
  rw [last.spells_iff]
  constructor
  · intro spells
    obtain ⟨x, token, _, spelled, nothing, rfl⟩ := spells
    obtain ⟨same, rfl⟩ := spells_nil_iff.mp nothing
    exact ⟨x, token, spelled, same, rfl⟩
  · intro parts
    obtain ⟨x, token, spelled, rfl, rfl⟩ := parts
    exact ⟨x, token, [], spelled, .nil _, rfl⟩

theorem OneToken.spells_comma_iff {ps : List Piece} {build : Builder α (p :: .comma :: ps)}
    (first : OneToken α p) :
    Spells (p :: .comma :: ps) build tokens a ↔
      ∃ x token others, first.Spelled x token ∧
        Spells ps (first.fill (.comma :: ps) build x) others a ∧
        tokens = token :: [','] :: others := by
  rw [first.spells_iff]
  constructor
  · intro spells
    obtain ⟨x, token, _, spelled, comma, rfl⟩ := spells
    cases comma with
    | comma others => exact ⟨x, token, _, spelled, others, rfl⟩
  · intro parts
    obtain ⟨x, token, others, spelled, rest, rfl⟩ := parts
    exact ⟨x, token, _, spelled, .comma rest, rfl⟩

/-- A keyword and what stands behind it. -/
theorem spells_word_iff {ps : List Piece} {build : Builder α ps}
    (proper : (Piece.word word).isProper) :
    Spells (.word word :: ps) build tokens a ↔
      ∃ keyword others, SpellsWord word keyword ∧ Spells ps build others a ∧
        tokens = keyword :: others := by
  rw [(OneToken.place word proper).spells_iff]
  constructor
  · intro spells
    obtain ⟨_, rest⟩ := spells
    exact rest
  · exact fun rest => ⟨(), rest⟩

theorem spells_plain_iff {build : α} (proper : (Piece.word word).isProper) :
    Spells [.word word] build tokens a ↔ SpellsLine word [] tokens ∧ build = a := by
  rw [spells_word_iff proper, spellsLine_zero_iff]
  constructor
  · intro spells
    obtain ⟨keyword, _, isWord, nothing, rfl⟩ := spells
    obtain ⟨rfl, rfl⟩ := spells_nil_iff.mp nothing
    exact ⟨⟨keyword, isWord, rfl⟩, rfl⟩
  · intro parts
    obtain ⟨⟨keyword, isWord, rfl⟩, rfl⟩ := parts
    exact ⟨keyword, [], isWord, .nil _, rfl⟩

theorem spells_one_iff {build : Builder α [p]} (first : OneToken α p)
    (proper : (Piece.word word).isProper) :
    Spells [.word word, p] build tokens a ↔
      ∃ x, SpellsLine word [first.Spelled x] tokens ∧ first.fill [] build x = a := by
  simp only [spells_word_iff proper, first.spells_last_iff, spellsLine_one_iff]
  constructor
  · intro spells
    obtain ⟨keyword, _, isWord, ⟨x, token, isFirst, rfl, rfl⟩, rfl⟩ := spells
    exact ⟨x, ⟨keyword, token, isWord, isFirst, rfl⟩, rfl⟩
  · intro parts
    obtain ⟨x, ⟨keyword, token, isWord, isFirst, rfl⟩, rfl⟩ := parts
    exact ⟨keyword, _, isWord, ⟨x, token, isFirst, rfl, rfl⟩, rfl⟩

theorem spells_two_iff {build : Builder α [p, .comma, q]} (first : OneToken α p)
    (second : OneToken α q) (proper : (Piece.word word).isProper) :
    Spells [.word word, p, .comma, q] build tokens a ↔
      ∃ x y, SpellsLine word [first.Spelled x, second.Spelled y] tokens ∧
        second.fill [] (first.fill [.comma, q] build x) y = a := by
  simp only [spells_word_iff proper, first.spells_comma_iff, second.spells_last_iff,
    spellsLine_two_iff]
  constructor
  · intro spells
    obtain ⟨keyword, _, isWord, ⟨x, b, _, isFirst, ⟨y, c, isSecond, rfl, rfl⟩, rfl⟩, rfl⟩ := spells
    exact ⟨x, y, ⟨keyword, b, c, isWord, isFirst, isSecond, rfl⟩, rfl⟩
  · intro parts
    obtain ⟨x, y, ⟨keyword, b, c, isWord, isFirst, isSecond, rfl⟩, rfl⟩ := parts
    exact ⟨keyword, _, isWord, ⟨x, b, _, isFirst, ⟨y, c, isSecond, rfl, rfl⟩, rfl⟩, rfl⟩

theorem spells_three_iff {build : Builder α [p, .comma, q, .comma, r]} (first : OneToken α p)
    (second : OneToken α q) (third : OneToken α r) (proper : (Piece.word word).isProper) :
    Spells [.word word, p, .comma, q, .comma, r] build tokens a ↔
      ∃ x y z, SpellsLine word [first.Spelled x, second.Spelled y, third.Spelled z] tokens ∧
        third.fill [] (second.fill [.comma, r] (first.fill [.comma, q, .comma, r] build x) y) z =
          a := by
  simp only [spells_word_iff proper, first.spells_comma_iff, second.spells_comma_iff,
    third.spells_last_iff, spellsLine_three_iff]
  constructor
  · intro spells
    obtain ⟨keyword, _, isWord,
      ⟨x, b, _, isFirst, ⟨y, c, _, isSecond, ⟨z, d, isThird, rfl, rfl⟩, rfl⟩, rfl⟩, rfl⟩ := spells
    exact ⟨x, y, z, ⟨keyword, b, c, d, isWord, isFirst, isSecond, isThird, rfl⟩, rfl⟩
  · intro parts
    obtain ⟨x, y, z, ⟨keyword, b, c, d, isWord, isFirst, isSecond, isThird, rfl⟩, rfl⟩ := parts
    exact ⟨keyword, _, isWord,
      ⟨x, b, _, isFirst, ⟨y, c, _, isSecond, ⟨z, d, isThird, rfl, rfl⟩, rfl⟩, rfl⟩, rfl⟩

theorem spells_optional_iff {build : Register → Register → α}
    (proper : (Piece.word word).isProper) :
    Spells [.word word, .register, .optionalRegister] build tokens a ↔
      ∃ x y, (SpellsLine word [SpellsRegister x, SpellsRegister y] tokens ∨
        y = 0 ∧ SpellsLine word [SpellsRegister x] tokens) ∧ build x y = a := by
  simp only [spells_word_iff proper, OneToken.register.spells_iff, spellsLine_one_iff,
    spellsLine_two_iff]
  constructor
  · intro spells
    obtain ⟨keyword, _, isWord, ⟨x, b, _, isFirst, second, rfl⟩, rfl⟩ := spells
    cases second with
    | omitted nothing =>
      cases nothing
      exact ⟨x, 0, .inr ⟨rfl, keyword, b, isWord, isFirst, rfl⟩, rfl⟩
    | given isSecond nothing =>
      cases nothing
      exact ⟨x, _, .inl ⟨keyword, b, _, isWord, isFirst, isSecond, rfl⟩, rfl⟩
  · intro parts
    obtain ⟨x, y, ⟨keyword, b, c, isWord, isFirst, isSecond, rfl⟩ |
      ⟨rfl, keyword, b, isWord, isFirst, rfl⟩, rfl⟩ := parts
    · exact ⟨keyword, _, isWord, ⟨x, b, _, isFirst, .given isSecond (.nil _), rfl⟩, rfl⟩
    · exact ⟨keyword, _, isWord, ⟨x, b, _, isFirst, .omitted (.nil _), rfl⟩, rfl⟩

theorem intersperse_cons (first : Token) (others : List Token) :
    (first :: others).intersperse [','] = first :: others.flatMap fun token => [[','], token] := by
  induction others generalizing first with
  | nil => rfl
  | cons second others ih =>
    change first :: [','] :: (second :: others).intersperse [','] = _
    rw [ih]
    rfl

theorem spellsMore_iff {literals : List Literal} :
    SpellsMore literals tokens ↔
      ∃ written,
        List.Forall₂ (fun spells token => spells token) (literals.map SpellsLiteral) written ∧
          tokens = written.flatMap fun token => [[','], token] := by
  constructor
  · intro spells
    induction spells with
    | nil => exact ⟨[], .nil, rfl⟩
    | cons spelled _ ih =>
      obtain ⟨written, areWritten, rfl⟩ := ih
      exact ⟨_ :: written, .cons spelled areWritten, rfl⟩
  · intro parts
    obtain ⟨written, areWritten, rfl⟩ := parts
    rw [List.forall₂_map_left_iff] at areWritten
    induction areWritten with
    | nil => exact .nil
    | cons spelled _ ih => exact .cons spelled ih

theorem spells_numbers_iff {build : List Literal → α} (proper : (Piece.word word).isProper) :
    Spells [.word word, .numbers] build tokens a ↔
      ∃ values, (values ≠ [] ∧ SpellsLine word (values.map SpellsLiteral) tokens) ∧
        build values = a := by
  simp only [spells_word_iff proper]
  constructor
  · intro spells
    obtain ⟨keyword, _, isWord, spells, rfl⟩ := spells
    cases spells with
    | @numbers _ _ _ _ _ first rest token isFirst more nothing =>
      cases nothing
      obtain ⟨written, areWritten, rfl⟩ := spellsMore_iff.mp more
      refine ⟨first :: rest, ⟨List.cons_ne_nil first rest, keyword, token :: written, isWord,
        .cons isFirst areWritten, ?_⟩, rfl⟩
      rw [intersperse_cons, List.append_nil]
  · intro parts
    obtain ⟨values, ⟨nonempty, keyword, _, isWord, areWritten, rfl⟩, rfl⟩ := parts
    cases values with
    | nil => exact absurd rfl nonempty
    | cons first rest =>
      cases areWritten with
      | @cons _ token _ written isFirst others =>
        have more := spellsMore_iff.mpr ⟨written, others, rfl⟩
        refine ⟨keyword, _, isWord, .numbers isFirst more (.nil _), ?_⟩
        rw [intersperse_cons, List.append_nil]

end Forms

/-! ## Commands -/

section Commands

variable {word : String} {p q : Piece} {tokens : List Token} {command : Command}

theorem spelled_of_zero {build : Command} (proper : (Piece.word word).isProper)
    (table : ∀ tokens, SpellsLine word [] tokens → build.Spelled tokens) :
    ∀ tokens command, Spells [.word word] build tokens command → command.Spelled tokens := by
  intro tokens command spells
  obtain ⟨line, rfl⟩ := (spells_plain_iff proper).mp spells
  exact table tokens line

theorem spelled_of_one {build : Builder Command [p]} (first : OneToken Command p)
    (proper : (Piece.word word).isProper)
    (table : ∀ x tokens, SpellsLine word [first.Spelled x] tokens →
      Command.Spelled (first.fill [] build x) tokens) :
    ∀ tokens command, Spells [.word word, p] build tokens command → command.Spelled tokens := by
  intro tokens command spells
  obtain ⟨x, line, rfl⟩ := (spells_one_iff first proper).mp spells
  exact table x tokens line

theorem spelled_of_two {build : Builder Command [p, .comma, q]} (first : OneToken Command p)
    (second : OneToken Command q) (proper : (Piece.word word).isProper)
    (table : ∀ x y tokens, SpellsLine word [first.Spelled x, second.Spelled y] tokens →
      Command.Spelled (second.fill [] (first.fill [.comma, q] build x) y) tokens) :
    ∀ tokens command, Spells [.word word, p, .comma, q] build tokens command →
      command.Spelled tokens := by
  intro tokens command spells
  obtain ⟨x, y, line, rfl⟩ := (spells_two_iff first second proper).mp spells
  exact table x y tokens line

theorem spelled_of_optional {build : Register → Register → Command}
    (proper : (Piece.word word).isProper)
    (table : ∀ x y tokens, SpellsLine word [SpellsRegister x, SpellsRegister y] tokens ∨
      y = 0 ∧ SpellsLine word [SpellsRegister x] tokens → (build x y).Spelled tokens) :
    ∀ tokens command, Spells [.word word, .register, .optionalRegister] build tokens command →
      command.Spelled tokens := by
  intro tokens command spells
  obtain ⟨x, y, lines, rfl⟩ := (spells_optional_iff proper).mp spells
  exact table x y tokens lines

/-- A form spells nothing but what the table has. -/
theorem spelled_of_form :
    ∀ f ∈ Form.all, ∀ tokens command, Spells f.pieces f.build tokens command →
      command.Spelled tokens := by
  simp only [Form.all, List.forall_mem_cons]
  refine ⟨
    spelled_of_one .target rfl fun _ _ => id,
    spelled_of_zero rfl fun _ => id,
    spelled_of_zero rfl fun _ => id,
    spelled_of_one .target rfl fun _ _ => id,
    spelled_of_two .registerZero .target rfl fun _ _ _ => id,
    spelled_of_one .target rfl fun _ _ => id,
    spelled_of_two .register .number rfl fun _ _ _ => id,
    spelled_of_two .register .register rfl fun _ _ _ => id,
    spelled_of_two .register .number rfl fun _ _ _ => id,
    spelled_of_two .register .register rfl fun _ _ _ => id,
    spelled_of_two .register .number rfl fun _ _ _ => id,
    spelled_of_two .register .register rfl fun _ _ _ => id,
    spelled_of_two (.place "I" rfl) .target rfl fun _ _ _ => id,
    spelled_of_two .register (.place "DT" rfl) rfl fun _ _ _ => id,
    spelled_of_two .register (.place "K" rfl) rfl fun _ _ _ => id,
    spelled_of_two (.place "DT" rfl) .register rfl fun _ _ _ => id,
    spelled_of_two (.place "ST" rfl) .register rfl fun _ _ _ => id,
    spelled_of_two (.place "F" rfl) .register rfl fun _ _ _ => id,
    spelled_of_two (.place "B" rfl) .register rfl fun _ _ _ => id,
    spelled_of_two .memory .register rfl fun _ _ _ => id,
    spelled_of_two .register .memory rfl fun _ _ _ => id,
    spelled_of_two .register .number rfl fun _ _ _ => id,
    spelled_of_two .register .register rfl fun _ _ _ => id,
    spelled_of_two (.place "I" rfl) .register rfl fun _ _ _ => id,
    spelled_of_two .register .register rfl fun _ _ _ => id,
    spelled_of_two .register .register rfl fun _ _ _ => id,
    spelled_of_two .register .register rfl fun _ _ _ => id,
    spelled_of_two .register .register rfl fun _ _ _ => id,
    spelled_of_two .register .register rfl fun _ _ _ => id,
    spelled_of_optional rfl fun _ _ _ => id,
    spelled_of_optional rfl fun _ _ _ => id,
    spelled_of_two .register .number rfl fun _ _ _ => id,
    ?draw,
    spelled_of_one .register rfl fun _ _ => id,
    spelled_of_one .register rfl fun _ _ => id,
    ?data,
    List.forall_mem_nil _⟩
  case draw =>
    intro tokens command spells
    obtain ⟨x, y, rows, line, rfl⟩ :=
      (spells_three_iff .register .register .number rfl).mp spells
    exact line
  case data =>
    intro tokens command spells
    obtain ⟨values, spelled, rfl⟩ := (spells_numbers_iff rfl).mp spells
    exact spelled

/-- What the table has is spelled in a form. -/
theorem exists_form_of_spelled (spelled : command.Spelled tokens) :
    ∃ f ∈ Form.all, Spells f.pieces f.build tokens command := by
  -- The number in each case is that of the form.
  cases command with
  | data values =>
    exact ⟨_, List.mem_of_getElem? (i := 35) rfl,
      (spells_numbers_iff rfl).mpr ⟨values, spelled, rfl⟩⟩
  | operation op =>
    cases op with
    | sys target =>
      exact ⟨_, List.mem_of_getElem? (i := 0) rfl,
        (spells_one_iff .target rfl).mpr ⟨target, spelled, rfl⟩⟩
    | clear =>
      exact ⟨_, List.mem_of_getElem? (i := 1) rfl,
        (spells_plain_iff rfl).mpr ⟨spelled, rfl⟩⟩
    | ret =>
      exact ⟨_, List.mem_of_getElem? (i := 2) rfl,
        (spells_plain_iff rfl).mpr ⟨spelled, rfl⟩⟩
    | jump target =>
      exact ⟨_, List.mem_of_getElem? (i := 3) rfl,
        (spells_one_iff .target rfl).mpr ⟨target, spelled, rfl⟩⟩
    | jumpOffset target =>
      exact ⟨_, List.mem_of_getElem? (i := 4) rfl,
        (spells_two_iff .registerZero .target rfl).mpr ⟨(), target, spelled, rfl⟩⟩
    | call target =>
      exact ⟨_, List.mem_of_getElem? (i := 5) rfl,
        (spells_one_iff .target rfl).mpr ⟨target, spelled, rfl⟩⟩
    | skipEqual x value =>
      exact ⟨_, List.mem_of_getElem? (i := 6) rfl,
        (spells_two_iff .register .number rfl).mpr ⟨x, value, spelled, rfl⟩⟩
    | skipSame x y =>
      exact ⟨_, List.mem_of_getElem? (i := 7) rfl,
        (spells_two_iff .register .register rfl).mpr ⟨x, y, spelled, rfl⟩⟩
    | skipUnequal x value =>
      exact ⟨_, List.mem_of_getElem? (i := 8) rfl,
        (spells_two_iff .register .number rfl).mpr ⟨x, value, spelled, rfl⟩⟩
    | skipDifferent x y =>
      exact ⟨_, List.mem_of_getElem? (i := 9) rfl,
        (spells_two_iff .register .register rfl).mpr ⟨x, y, spelled, rfl⟩⟩
    | load x value =>
      exact ⟨_, List.mem_of_getElem? (i := 10) rfl,
        (spells_two_iff .register .number rfl).mpr ⟨x, value, spelled, rfl⟩⟩
    | copy x y =>
      exact ⟨_, List.mem_of_getElem? (i := 11) rfl,
        (spells_two_iff .register .register rfl).mpr ⟨x, y, spelled, rfl⟩⟩
    | loadIndex target =>
      exact ⟨_, List.mem_of_getElem? (i := 12) rfl,
        (spells_two_iff (.place "I" rfl) .target rfl).mpr ⟨(), target, spelled, rfl⟩⟩
    | readDelay x =>
      exact ⟨_, List.mem_of_getElem? (i := 13) rfl,
        (spells_two_iff .register (.place "DT" rfl) rfl).mpr ⟨x, (), spelled, rfl⟩⟩
    | waitKey x =>
      exact ⟨_, List.mem_of_getElem? (i := 14) rfl,
        (spells_two_iff .register (.place "K" rfl) rfl).mpr ⟨x, (), spelled, rfl⟩⟩
    | setDelay x =>
      exact ⟨_, List.mem_of_getElem? (i := 15) rfl,
        (spells_two_iff (.place "DT" rfl) .register rfl).mpr ⟨(), x, spelled, rfl⟩⟩
    | setSound x =>
      exact ⟨_, List.mem_of_getElem? (i := 16) rfl,
        (spells_two_iff (.place "ST" rfl) .register rfl).mpr ⟨(), x, spelled, rfl⟩⟩
    | loadGlyph x =>
      exact ⟨_, List.mem_of_getElem? (i := 17) rfl,
        (spells_two_iff (.place "F" rfl) .register rfl).mpr ⟨(), x, spelled, rfl⟩⟩
    | storeDecimal x =>
      exact ⟨_, List.mem_of_getElem? (i := 18) rfl,
        (spells_two_iff (.place "B" rfl) .register rfl).mpr ⟨(), x, spelled, rfl⟩⟩
    | storeRegisters x =>
      exact ⟨_, List.mem_of_getElem? (i := 19) rfl,
        (spells_two_iff .memory .register rfl).mpr ⟨(), x, spelled, rfl⟩⟩
    | loadRegisters x =>
      exact ⟨_, List.mem_of_getElem? (i := 20) rfl,
        (spells_two_iff .register .memory rfl).mpr ⟨x, (), spelled, rfl⟩⟩
    | add x value =>
      exact ⟨_, List.mem_of_getElem? (i := 21) rfl,
        (spells_two_iff .register .number rfl).mpr ⟨x, value, spelled, rfl⟩⟩
    | addRegister x y =>
      exact ⟨_, List.mem_of_getElem? (i := 22) rfl,
        (spells_two_iff .register .register rfl).mpr ⟨x, y, spelled, rfl⟩⟩
    | addIndex x =>
      exact ⟨_, List.mem_of_getElem? (i := 23) rfl,
        (spells_two_iff (.place "I" rfl) .register rfl).mpr ⟨(), x, spelled, rfl⟩⟩
    | or x y =>
      exact ⟨_, List.mem_of_getElem? (i := 24) rfl,
        (spells_two_iff .register .register rfl).mpr ⟨x, y, spelled, rfl⟩⟩
    | and x y =>
      exact ⟨_, List.mem_of_getElem? (i := 25) rfl,
        (spells_two_iff .register .register rfl).mpr ⟨x, y, spelled, rfl⟩⟩
    | xor x y =>
      exact ⟨_, List.mem_of_getElem? (i := 26) rfl,
        (spells_two_iff .register .register rfl).mpr ⟨x, y, spelled, rfl⟩⟩
    | sub x y =>
      exact ⟨_, List.mem_of_getElem? (i := 27) rfl,
        (spells_two_iff .register .register rfl).mpr ⟨x, y, spelled, rfl⟩⟩
    | subFrom x y =>
      exact ⟨_, List.mem_of_getElem? (i := 28) rfl,
        (spells_two_iff .register .register rfl).mpr ⟨x, y, spelled, rfl⟩⟩
    | shiftRight x y =>
      exact ⟨_, List.mem_of_getElem? (i := 29) rfl,
        (spells_optional_iff rfl).mpr ⟨x, y, spelled, rfl⟩⟩
    | shiftLeft x y =>
      exact ⟨_, List.mem_of_getElem? (i := 30) rfl,
        (spells_optional_iff rfl).mpr ⟨x, y, spelled, rfl⟩⟩
    | random x mask =>
      exact ⟨_, List.mem_of_getElem? (i := 31) rfl,
        (spells_two_iff .register .number rfl).mpr ⟨x, mask, spelled, rfl⟩⟩
    | draw x y rows =>
      exact ⟨_, List.mem_of_getElem? (i := 32) rfl,
        (spells_three_iff .register .register .number rfl).mpr ⟨x, y, rows, spelled, rfl⟩⟩
    | skipPressed x =>
      exact ⟨_, List.mem_of_getElem? (i := 33) rfl,
        (spells_one_iff .register rfl).mpr ⟨x, spelled, rfl⟩⟩
    | skipReleased x =>
      exact ⟨_, List.mem_of_getElem? (i := 34) rfl,
        (spells_one_iff .register rfl).mpr ⟨x, spelled, rfl⟩⟩

/-- A command is spelled as the table has it if and only if it is spelled in one of the forms. -/
theorem Command.spelled_iff :
    command.Spelled tokens ↔ ∃ f ∈ Form.all, Spells f.pieces f.build tokens command := by
  constructor
  · exact exists_form_of_spelled
  · intro parts
    obtain ⟨f, mem, spells⟩ := parts
    exact spelled_of_form f mem tokens command spells

end Commands

end ChipEight.Assembly
