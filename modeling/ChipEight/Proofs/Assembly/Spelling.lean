import ChipEight.Assembly.Item
import ChipEight.Proofs.Assembly.Numeral

/-!
# Spellings

How the items of a program are written, as relations between what they are and the texts of their
tokens. Nothing is said here about blanks and comments, nor about which of two spellings counts
where a text has both.
-/

namespace ChipEight.Assembly

/-- The text of a token. -/
abbrev Token := List Char

/-! ## Tokens -/

/-- A letter of a keyword, which may also be small. Two small letters beyond ASCII have a capital in
    it. -/
def SpellsLetter (letter c : Char) : Prop :=
  c = letter ∨ c = letter.toLower ∨ (letter = 'I' ∧ c = 'ı') ∨ (letter = 'S' ∧ c = 'ſ')
  deriving Decidable

/-- A keyword in capitals, small letters or both. -/
def SpellsWord (word : String) (token : Token) : Prop :=
  List.Forall₂ SpellsLetter word.toList token
  deriving Decidable

/-- A register: a letter and the digit of its number. -/
inductive SpellsRegister : Register → Token → Prop
  | intro {x : Register} (letter digit : Char) (isLetter : letter = 'V' ∨ letter = 'v')
    (isDigit : Numeral.digit? digit = some x.val) :
    SpellsRegister x [letter, digit]

/-- A number: its digits with the mark of the radix. -/
inductive SpellsLiteral : Literal → Token → Prop
  | decimal (digits : List Char) (nonempty : digits ≠ [])
    (areDigits : ∀ c ∈ digits, Numeral.isDigit 10 c) :
    SpellsLiteral ⟨.decimal, digits⟩ digits
  | hexadecimal (mark : Char) (digits : List Char) (isMark : mark.toLower = 'x')
    (nonempty : digits ≠ []) (areDigits : ∀ c ∈ digits, Numeral.isDigit 16 c) :
    SpellsLiteral ⟨.hexadecimal, digits⟩ ('0' :: mark :: digits)
  | binary (mark : Char) (digits : List Char) (isMark : mark.toLower = 'b') (nonempty : digits ≠ [])
    (areDigits : ∀ c ∈ digits, Numeral.isDigit 2 c) :
    SpellsLiteral ⟨.binary, digits⟩ ('0' :: mark :: digits)

/-- A name: letters, digits and underscores, but no digit in front. -/
inductive SpellsName : String → Token → Prop
  | intro (first : Char) (rest : List Char) (starts : first.isAlpha || first == '_')
    (others : ∀ c ∈ rest, c.isAlphanum || c == '_') :
    SpellsName (String.ofList (first :: rest)) (first :: rest)

/-- A number or a name. -/
inductive SpellsTarget : Target → Token → Prop
  | number {literal : Literal} {token : Token} (spelled : SpellsLiteral literal token) :
    SpellsTarget (.number literal) token
  | label {name : String} {token : Token} (spelled : SpellsName name token) :
    SpellsTarget (.label name) token

/-! ## Items -/

/-- A keyword and then operands, with a comma between one operand and the next. -/
def SpellsLine (word : String) (operands : List (Token → Prop)) (tokens : List Token) : Prop :=
  ∃ keyword written, SpellsWord word keyword ∧
    List.Forall₂ (fun spells token => spells token) operands written ∧
    tokens = keyword :: written.intersperse [',']

/-- An operation. The second register of a shift may be left out if it is register 0. -/
def SpellsOperation : Operation Literal Literal Target → List Token → Prop
  | .sys target => SpellsLine "SYS" [SpellsTarget target]
  | .clear => SpellsLine "CLS" []
  | .ret => SpellsLine "RET" []
  | .jump target => SpellsLine "JP" [SpellsTarget target]
  | .jumpOffset target => SpellsLine "JP" [SpellsRegister 0, SpellsTarget target]
  | .call target => SpellsLine "CALL" [SpellsTarget target]
  | .skipEqual x value => SpellsLine "SE" [SpellsRegister x, SpellsLiteral value]
  | .skipSame x y => SpellsLine "SE" [SpellsRegister x, SpellsRegister y]
  | .skipUnequal x value => SpellsLine "SNE" [SpellsRegister x, SpellsLiteral value]
  | .skipDifferent x y => SpellsLine "SNE" [SpellsRegister x, SpellsRegister y]
  | .load x value => SpellsLine "LD" [SpellsRegister x, SpellsLiteral value]
  | .copy x y => SpellsLine "LD" [SpellsRegister x, SpellsRegister y]
  | .loadIndex target => SpellsLine "LD" [SpellsWord "I", SpellsTarget target]
  | .readDelay x => SpellsLine "LD" [SpellsRegister x, SpellsWord "DT"]
  | .waitKey x => SpellsLine "LD" [SpellsRegister x, SpellsWord "K"]
  | .setDelay x => SpellsLine "LD" [SpellsWord "DT", SpellsRegister x]
  | .setSound x => SpellsLine "LD" [SpellsWord "ST", SpellsRegister x]
  | .loadGlyph x => SpellsLine "LD" [SpellsWord "F", SpellsRegister x]
  | .storeDecimal x => SpellsLine "LD" [SpellsWord "B", SpellsRegister x]
  | .storeRegisters x => SpellsLine "LD" [SpellsWord "[I]", SpellsRegister x]
  | .loadRegisters x => SpellsLine "LD" [SpellsRegister x, SpellsWord "[I]"]
  | .add x value => SpellsLine "ADD" [SpellsRegister x, SpellsLiteral value]
  | .addRegister x y => SpellsLine "ADD" [SpellsRegister x, SpellsRegister y]
  | .addIndex x => SpellsLine "ADD" [SpellsWord "I", SpellsRegister x]
  | .or x y => SpellsLine "OR" [SpellsRegister x, SpellsRegister y]
  | .and x y => SpellsLine "AND" [SpellsRegister x, SpellsRegister y]
  | .xor x y => SpellsLine "XOR" [SpellsRegister x, SpellsRegister y]
  | .sub x y => SpellsLine "SUB" [SpellsRegister x, SpellsRegister y]
  | .subFrom x y => SpellsLine "SUBN" [SpellsRegister x, SpellsRegister y]
  | .shiftRight x y => fun tokens =>
    SpellsLine "SHR" [SpellsRegister x, SpellsRegister y] tokens ∨
      y = 0 ∧ SpellsLine "SHR" [SpellsRegister x] tokens
  | .shiftLeft x y => fun tokens =>
    SpellsLine "SHL" [SpellsRegister x, SpellsRegister y] tokens ∨
      y = 0 ∧ SpellsLine "SHL" [SpellsRegister x] tokens
  | .random x mask => SpellsLine "RND" [SpellsRegister x, SpellsLiteral mask]
  | .draw x y rows => SpellsLine "DRW" [SpellsRegister x, SpellsRegister y, SpellsLiteral rows]
  | .skipPressed x => SpellsLine "SKP" [SpellsRegister x]
  | .skipReleased x => SpellsLine "SKNP" [SpellsRegister x]

/-- A command: an operation, or data of one number or more. -/
def Command.Spelled : Command → List Token → Prop
  | .operation op => SpellsOperation op
  | .data values => fun tokens => values ≠ [] ∧ SpellsLine "DB" (values.map SpellsLiteral) tokens

/-- An item; what cannot be read is none that one could spell. -/
inductive Item.Spelled : Item → List Token → Prop
  | label {name : String} {token : Token} (spelled : SpellsName name token) :
    (Item.label name).Spelled [token, [':']]
  | command {command : Command} {tokens : List Token} (spelled : command.Spelled tokens) :
    (Item.command command).Spelled tokens

end ChipEight.Assembly
