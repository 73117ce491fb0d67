import ChipEight.Assembly.Listing
import ChipEight.Text.Tabs

/-!
# Programs

From texts to bytes: the modules of a program go through the first pass one after the other and
share their labels, and linking then puts addresses in the place of labels.
-/

namespace ChipEight.Assembly

/-- A text with the name that errors call it by. -/
structure Module where
  name : String := "<inline>"
  text : String
  deriving DecidableEq, Repr

def Module.items (m : Module) : Except Error (List Item) :=
  -- A module is read as a whole before anything is done with it.
  let items := Item.ofText (Text.Tabs.expand m.text.toList)
  if items.all fun item => item.literals.all Literal.isReadable then .ok items else .error .numberTooLong

namespace FirstPass

def process (m : Module) : FirstPass Unit := do
  modify fun l => { l.note (.processing m.name) with moduleName := m.name }
  match m.items with
  | .error e => throw e
  | .ok items => items.forM fun item => perform item.action

def processAll (modules : List Module) : FirstPass Unit :=
  modules.forM process

end FirstPass

/-! ## Linking -/

namespace Listing

def address (l : Listing) (name : String) : Except Error Address :=
  match l.offset? name with
  | none => .error (.unresolvedLabel name)
  | some offset =>
    if h : Memory.romBase + offset < 0x1000 then .ok ⟨Memory.romBase + offset, h⟩ else .error (.labelTooFar name)

def resolve (l : Listing) : Chunk → Except Error (List UInt8)
  | .bytes block => .ok block
  | .reference template name => do
    return wordBytes (← encode template [(.address, ((← l.address name).val : Int))])

def link (l : Listing) : Except Error (List UInt8) := do
  let program := (← l.chunks.toList.mapM l.resolve).flatten
  if Memory.capacity - Memory.romBase < program.length then throw (.programTooLarge program.length)
  return program

end Listing

/-- Assembles modules to a program, and tells what was done on the way. -/
def assembleNoting (modules : List Module) : Except Error (List UInt8) × Array Note :=
  match FirstPass.processAll modules {} with
  | .ok () l => (l.link, l.notes)
  | .error e l => (.error e, l.notes)

def assemble (modules : List Module) : Except Error (List UInt8) :=
  (assembleNoting modules).1

def assembleText (text : String) : Except Error (List UInt8) :=
  assemble [{ text }]

end ChipEight.Assembly
