import ChipEight.Assembly.Token

/-!
# Forms of commands

A command is written as a keyword and operands with commas between them. Each way to write one is a
form: the pieces in the order in which they stand in the text, and the command that their values
make. Of all forms that a text can be read as, the longest counts, so that `JP V0, start` is no jump
to a label named `V0`.
-/

namespace ChipEight.Assembly

/-- Where an instruction points: an address, or a label that stands for one. -/
inductive Target
  | number (literal : Literal)
  | label (name : String)
  deriving DecidableEq, Repr

inductive Command
  | operation (op : Operation Literal Literal Target)
  /-- Bytes to put into the program as they are. -/
  | data (values : List Literal)
  deriving DecidableEq, Repr

inductive Piece
  | word (text : String)
  | comma
  /-- The index register in brackets: the memory it points to. -/
  | memory
  /-- Register 0, where no other will do. -/
  | registerZero
  | register
  /-- A comma and a register, or nothing, which stands for register 0. -/
  | optionalRegister
  | number
  /-- A number or a label. -/
  | target
  | numbers
  deriving DecidableEq, Repr

/-- A function of the values of pieces; some pieces have none. -/
abbrev Builder (α : Type) : List Piece → Type
  | [] => α
  | .register :: pieces | .optionalRegister :: pieces => Register → Builder α pieces
  | .number :: pieces => Literal → Builder α pieces
  | .target :: pieces => Target → Builder α pieces
  | .numbers :: pieces => List Literal → Builder α pieces
  | .word _ :: pieces | .comma :: pieces | .memory :: pieces | .registerZero :: pieces => Builder α pieces

namespace Scan

def target : Scan Target :=
  Target.number <$> number <|> Target.label <$> name

def afterComma {α : Type} (p : Scan α) : Scan α := do
  symbol ','
  p

/-- Reads pieces one after the other and applies the builder to their values. -/
def pieces {α : Type} : (ps : List Piece) → Builder α ps → Scan α
  | [], a => return a
  | .word text :: ps, build => do
    keyword text
    pieces ps build
  | .comma :: ps, build => do
    symbol ','
    pieces ps build
  | .memory :: ps, build => do
    bracketedIndex
    pieces ps build
  | .registerZero :: ps, build => do
    registerZero
    pieces ps build
  | .register :: ps, build => do pieces ps (build (← register))
  | .optionalRegister :: ps, build => do pieces ps (build ((← optional (afterComma register)).getD 0))
  | .number :: ps, build => do pieces ps (build (← number))
  | .target :: ps, build => do pieces ps (build (← target))
  | .numbers :: ps, build => do
    let first ← number
    pieces ps (build (first :: (← all (afterComma number))))

end Scan

structure Form where
  pieces : List Piece
  build : Builder Command pieces

namespace Form

def plain (word : String) (op : Operation Literal Literal Target) : Form where
  pieces := [.word word]
  build := .operation op

def withTarget (word : String) (op : Target → Operation Literal Literal Target) : Form where
  pieces := [.word word, .target]
  build := fun target => .operation (op target)

def withRegister (word : String) (op : Register → Operation Literal Literal Target) : Form where
  pieces := [.word word, .register]
  build := fun x => .operation (op x)

def withRegisters (word : String) (op : Register → Register → Operation Literal Literal Target) : Form where
  pieces := [.word word, .register, .comma, .register]
  build := fun x y => .operation (op x y)

def withNumber (word : String) (op : Register → Literal → Operation Literal Literal Target) : Form where
  pieces := [.word word, .register, .comma, .number]
  build := fun x value => .operation (op x value)

/-- A keyword, a register, and a second register that may be left out. -/
def withOptional (word : String) (op : Register → Register → Operation Literal Literal Target) : Form where
  pieces := [.word word, .register, .optionalRegister]
  build := fun x y => .operation (op x y)

/-- A load from a register into something that a keyword names. -/
def into (word : String) (op : Register → Operation Literal Literal Target) : Form where
  pieces := [.word "LD", .word word, .comma, .register]
  build := fun x => .operation (op x)

/-- A load into a register from something that a keyword names. -/
def outOf (word : String) (op : Register → Operation Literal Literal Target) : Form where
  pieces := [.word "LD", .register, .comma, .word word]
  build := fun x => .operation (op x)

def read (f : Form) : Scan Command :=
  Scan.pieces f.pieces f.build

def all : List Form := [
  withTarget "SYS" .sys,
  plain "CLS" .clear,
  plain "RET" .ret,
  withTarget "JP" .jump,
  ⟨[.word "JP", .registerZero, .comma, .target], fun target => .operation (.jumpOffset target)⟩,
  withTarget "CALL" .call,
  withNumber "SE" .skipEqual,
  withRegisters "SE" .skipSame,
  withNumber "SNE" .skipUnequal,
  withRegisters "SNE" .skipDifferent,
  withNumber "LD" .load,
  withRegisters "LD" .copy,
  ⟨[.word "LD", .word "I", .comma, .target], fun target => .operation (.loadIndex target)⟩,
  outOf "DT" .readDelay,
  outOf "K" .waitKey,
  into "DT" .setDelay,
  into "ST" .setSound,
  into "F" .loadGlyph,
  into "B" .storeDecimal,
  ⟨[.word "LD", .memory, .comma, .register], fun x => .operation (.storeRegisters x)⟩,
  ⟨[.word "LD", .register, .comma, .memory], fun x => .operation (.loadRegisters x)⟩,
  withNumber "ADD" .add,
  withRegisters "ADD" .addRegister,
  ⟨[.word "ADD", .word "I", .comma, .register], fun x => .operation (.addIndex x)⟩,
  withRegisters "OR" .or,
  withRegisters "AND" .and,
  withRegisters "XOR" .xor,
  withRegisters "SUB" .sub,
  withRegisters "SUBN" .subFrom,
  withOptional "SHR" .shiftRight,
  withOptional "SHL" .shiftLeft,
  withNumber "RND" .random,
  ⟨[.word "DRW", .register, .comma, .register, .comma, .number], fun x y rows => .operation (.draw x y rows)⟩,
  withRegister "SKP" .skipPressed,
  withRegister "SKNP" .skipReleased,
  ⟨[.word "DB", .numbers], .data⟩]

end Form

end ChipEight.Assembly
