import ChipEight.Decimal.Limit

/-!
# Errors of assembly

Why a text is no program. The wording is `Error.message`.
-/

namespace ChipEight.Assembly

inductive Error
  /-- A number is not below its limit, or is negative. -/
  | outOfRange (what : String) (value limit : Int)
  | duplicateLabel (name : String)
  | unknownCommand (text moduleName : String)
  /-- A label that is used and nowhere defined. -/
  | unresolvedLabel (name : String)
  /-- A label that is used and stands for no address. -/
  | labelTooFar (name : String)
  /-- A program that memory has no room for. -/
  | programTooLarge (size : Nat)
  /-- A word that does not fit into sixteen bits. -/
  | wordTooWide
  /-- A word that is negative, or does not even fit into sixty-four bits. -/
  | wordOutOfRange
  /-- A number has too many digits to be read, or to be written in the message about it. -/
  | numberTooLong
  deriving DecidableEq, Repr

def Error.message : Error → String
  | .outOfRange what value limit => s!"{what} {value} out of range 0..{limit - 1}"
  | .duplicateLabel name => s!"Duplicate label {name}"
  | .unknownCommand text moduleName => s!"Unknown command {text} in {moduleName}"
  | .unresolvedLabel name => s!"Unresolved label {name}"
  | .labelTooFar name => s!"Label {name} lies beyond addressable memory"
  | .programTooLarge size => s!"Program of {size} bytes does not fit in memory"
  | .wordTooWide => "'H' format requires 0 <= number <= 65535"
  | .wordOutOfRange => "argument out of range"
  | .numberTooLong => Decimal.limitMessage

/-- Fails unless `value` is one of the numbers from zero up to, but not including, `limit`. -/
def checkRange (what : String) (value limit : Int) : Except Error Unit :=
  if 0 ≤ value ∧ value < limit then .ok ()
  else if Decimal.isWritable value && Decimal.isWritable (limit - 1) then .error (.outOfRange what value limit)
  else .error .numberTooLong

end ChipEight.Assembly
