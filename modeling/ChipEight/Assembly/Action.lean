import ChipEight.Assembly.Item
import ChipEight.Decimal.Limit

/-!
# Actions

What the items of a text ask of the first pass. An action still holds its numbers as they were
given, in range or not: it is the first pass that checks them. The same goes for the templates,
which need not be words.
-/

namespace ChipEight.Assembly

/-- The places for operands in a word. -/
inductive Field
  /-- The first register. -/
  | x
  /-- The second register. -/
  | y
  | nibble
  | byte
  | address
  deriving DecidableEq, Repr

namespace Field

def what : Field → String
  | x | y => "Register"
  | nibble => "Nibble"
  | byte => "Byte"
  | address => "Address"

def limit : Field → Nat
  | x | y | nibble => 0x10
  | byte => 0x100
  | address => 0x1000

/-- The bits below the place. -/
def shift : Field → Nat
  | x => 8
  | y => 4
  | nibble | byte | address => 0

end Field

/-- What is to be done in the first pass. -/
inductive Action
  /-- Issues a word: a template with operands put into their places. -/
  | word (template : Int) (operands : List (Field × Int))
  /-- Issues a word whose address is that of a label. -/
  | reference (template : Int) (label : String)
  | data (values : List Int)
  | bytes (block : List UInt8)
  | label (name : String)
  | unknown (text : String)
  deriving DecidableEq, Repr

def Target.action (template : Int) : Target → Action
  | .number literal => .word template [(.address, literal.value)]
  | .label name => .reference template name

def issue (op : Operation Literal Literal Target) : Action :=
  match op with
  | .clear | .ret => .word op.template []
  | .sys target | .jump target | .call target | .loadIndex target | .jumpOffset target => target.action op.template
  | .skipEqual x value | .skipUnequal x value | .load x value | .add x value | .random x value =>
    .word op.template [(.x, x.val), (.byte, value.value)]
  | .skipSame x y | .skipDifferent x y | .copy x y | .or x y | .and x y | .xor x y | .addRegister x y | .sub x y
  | .subFrom x y | .shiftRight x y | .shiftLeft x y => .word op.template [(.x, x.val), (.y, y.val)]
  | .draw x y rows => .word op.template [(.x, x.val), (.y, y.val), (.nibble, rows.value)]
  | .skipPressed x | .skipReleased x | .readDelay x | .waitKey x | .setDelay x | .setSound x | .addIndex x
  | .loadGlyph x | .storeDecimal x | .storeRegisters x | .loadRegisters x => .word op.template [(.x, x.val)]

def Item.action : Item → Action
  | .label name => .label name
  | .command (.operation op) => issue op
  | .command (.data values) => .data (values.map fun v => (v.value : Int))
  | .unknown text => .unknown text

/-! ## Numbers of a text -/

def Target.literals : Target → List Literal
  | .number literal => [literal]
  | .label _ => []

def Command.literals : Command → List Literal
  | .data values => values
  | .operation op =>
    match op with
    | .sys target | .jump target | .call target | .loadIndex target | .jumpOffset target => target.literals
    | .skipEqual _ value | .skipUnequal _ value | .load _ value | .add _ value | .random _ value | .draw _ _ value =>
      [value]
    | _ => []

def Item.literals : Item → List Literal
  | .command c => c.literals
  | .label _ | .unknown _ => []

/-- Whether a number has no more digits than can be read. -/
def Literal.isReadable (l : Literal) : Bool :=
  match l.radix with
  | .decimal => l.digits.length ≤ Decimal.digitLimit
  | .hexadecimal | .binary => true

end ChipEight.Assembly
