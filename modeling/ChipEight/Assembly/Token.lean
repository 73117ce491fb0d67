import ChipEight.Assembly.Cursor
import ChipEight.Instruction
import ChipEight.Text.Alphanumeric

/-!
# Tokens

The smallest pieces of an assembler text. Blanks and line ends may stand in front of each of them
and mean nothing.
-/

namespace ChipEight.Assembly

/-! ## Numbers -/

inductive Radix
  | decimal
  | hexadecimal
  | binary
  deriving DecidableEq, Repr

def Radix.base : Radix → Nat
  | .decimal => 10
  | .hexadecimal => 16
  | .binary => 2

/-- The value of a hexadecimal digit; what is none counts as zero. -/
def digitValue (c : Char) : Nat :=
  if c.isDigit then c.toNat - '0'.toNat
  else if 'a' ≤ c ∧ c ≤ 'f' then c.toNat - 'a'.toNat + 10
  else if 'A' ≤ c ∧ c ≤ 'F' then c.toNat - 'A'.toNat + 10
  else 0

def isHexDigit (c : Char) : Bool :=
  c.isDigit || ('a' ≤ c && c ≤ 'f') || ('A' ≤ c && c ≤ 'F')

def Radix.isDigit : Radix → Char → Bool
  | .decimal, c => c.isDigit
  | .hexadecimal, c => isHexDigit c
  | .binary, c => c == '0' || c == '1'

/-- A number as it is written: its digits without the mark of the radix. -/
structure Literal where
  radix : Radix
  digits : List Char
  deriving DecidableEq, Repr

def Literal.value (l : Literal) : Nat :=
  l.digits.foldl (fun value c => value * l.radix.base + digitValue c) 0

/-! ## Characters of the grammar -/

/-- The blanks and line ends that may separate tokens. -/
def isSeparator (c : Char) : Bool :=
  c == ' ' || c == '\n' || c == '\t' || c == '\r'

/-- The capital of a letter as keywords are compared: two small letters beyond ASCII have a capital
    in it. -/
def capital (c : Char) : Char :=
  if c = 'ı' then 'I' else if c = 'ſ' then 'S' else c.toUpper

/-- Whether a character next to a keyword would make it another word. -/
def isKeywordChar (c : Char) : Bool :=
  let c := capital c
  c.isUpper || c.isDigit || c == '_' || c == '$'

def startsName (c : Char) : Bool :=
  c.isAlpha || c == '_'

def isNameChar (c : Char) : Bool :=
  c.isAlphanum || c == '_'

namespace Scan

/-! ## Tokens -/

def separators : Scan Unit := do
  let _ ← span isSeparator

def symbol (x : Char) : Scan Unit := do
  separators
  let _ ← char (· == x)

def letters : List Char → Scan Unit
  | [] => return
  | x :: word => do
    let _ ← char (capital · == x)
    letters word

/-- Reads a keyword, which is given in capitals. -/
def keyword (word : String) : Scan Unit := do
  separators
  behind (!isKeywordChar ·)
  letters word.toList
  ahead (!isKeywordChar ·)

def bracketedIndex : Scan Unit := do
  separators
  letters ['[', 'I', ']']

def register : Scan Register := do
  separators
  let _ ← char fun c => c == 'V' || c == 'v'
  let digit ← char isHexDigit
  ahead (!Text.isWordChar ·)
  return Fin.ofNat 16 (digitValue digit)

def registerZero : Scan Unit := do
  separators
  let _ ← char fun c => c == 'V' || c == 'v'
  let _ ← char (· == '0')
  ahead (!Text.isWordChar ·)

/-- Reads a number with a zero and a letter in front of its digits. -/
def marked (mark : Char) (radix : Radix) : Scan Literal := do
  separators
  let _ ← char (· == '0')
  let _ ← char fun c => c.toLower == mark
  return ⟨radix, ← someOf radix.isDigit⟩

def number : Scan Literal :=
  marked 'x' .hexadecimal <|> marked 'b' .binary <|> do
    separators
    return ⟨.decimal, ← someOf Radix.decimal.isDigit⟩

def name : Scan String := do
  separators
  let first ← char startsName
  return String.ofList (first :: (← span isNameChar))

def comment : Scan Unit := do
  separators
  let _ ← char (· == '/')
  let _ ← char (· == '/')
  let _ ← span (· != '\n')

def line : Scan String := do
  separators
  return String.ofList (← someOf (· != '\n'))

end Scan

end ChipEight.Assembly
