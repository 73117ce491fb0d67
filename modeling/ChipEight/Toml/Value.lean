import ChipEight.Decimal.Layout
import ChipEight.Decimal.Limit
import ChipEight.Text.Quoted
import ChipEight.Toml.Moment

/-!
# Values of a document

The values that settings are read from. A document has no null; the other values can be asked of it.
-/

namespace ChipEight.Toml

open Decimal (Binary64)

/-- A value. The entries of a table are in the order in which they came. -/
inductive Value
  | null
  | boolean (b : Bool)
  | integer (n : Int)
  | float (x : Binary64)
  | text (s : String)
  | array (items : List Value)
  | table (entries : List (String × Value))
  | date (d : Date)
  | time (t : Time)
  | dateTime (m : DateTime)
  deriving Inhabited

namespace Value

/-- What messages call the type of a value. -/
def typeName : Value → String
  | null => "NoneType"
  | boolean _ => "bool"
  | integer _ => "int"
  | float _ => "float"
  | text _ => "str"
  | array _ => "list"
  | table _ => "dict"
  | date _ => "datetime.date"
  | time _ => "datetime.time"
  | dateTime _ => "datetime.datetime"

/-- What can be in the way of showing a value. -/
inductive Obstacle
  /-- An integer in it is too long to be written in decimal. -/
  | numberTooLong
  /-- Values in it lie too deep in each other. -/
  | tooDeep
  deriving DecidableEq, Repr

/-- How many values may lie in each other for the outermost to be shown. -/
def maxShown : Nat := 992

mutual

/-- What comes first in the way of showing a value, where there is room for a number of values that
    lie in each other. -/
def obstacleIn? : Nat → Value → Option Obstacle
  | 0, _ => some .tooDeep
  | _ + 1, integer n => if Decimal.isWritable n then none else some .numberTooLong
  | room + 1, array items => itemsObstacle? room items
  | room + 1, table entries => entriesObstacle? room entries
  | _ + 1, _ => none

def itemsObstacle? (room : Nat) : List Value → Option Obstacle
  | [] => none
  | v :: vs => (obstacleIn? room v).or (itemsObstacle? room vs)

def entriesObstacle? (room : Nat) : List (String × Value) → Option Obstacle
  | [] => none
  | (_, v) :: es => (obstacleIn? room v).or (entriesObstacle? room es)

end

def obstacle? : Value → Option Obstacle :=
  obstacleIn? maxShown

/-- Whether a value can be shown. -/
def isWritable (v : Value) : Bool :=
  v.obstacle?.isNone

def bracketed (opening closing : String) (parts : List String) : String :=
  opening ++ ", ".intercalate parts ++ closing

mutual

def shown : Value → String
  | null => "None"
  | boolean true => "True"
  | boolean false => "False"
  | integer n => toString n
  | float x => Decimal.standard.write x
  | text s => Text.Quoted.quote s
  | array items => bracketed "[" "]" (itemsShown items)
  | table entries => bracketed "\x7b" "\x7d" (entriesShown entries)
  | date d => call "datetime.date" d.arguments
  | time t => call "datetime.time" t.arguments
  | dateTime m =>
    call "datetime.datetime" (m.date.arguments ++ m.time.arguments)
      (m.offset.map fun n => "tzinfo=" ++ DateTime.offsetCall n).toList

def itemsShown : List Value → List String
  | [] => []
  | v :: vs => shown v :: itemsShown vs

def entriesShown : List (String × Value) → List String
  | [] => []
  | (key, v) :: es => (Text.Quoted.quote key ++ ": " ++ shown v) :: entriesShown es

end

/-- A value as plain text: texts as they are, dates and times in the notation of ISO 8601, and all
    else as messages show it. -/
def plain : Value → String
  | text s => s
  | date d => d.iso
  | time t => t.iso
  | dateTime m => m.iso " "
  | v => v.shown

end Value

end ChipEight.Toml
