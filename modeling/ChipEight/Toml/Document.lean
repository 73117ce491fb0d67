import ChipEight.Toml.Number
import ChipEight.Toml.Tree

/-!
# Documents

A document consists of lines: a key with its value, or the header of a table or of one more table of
an array. Blank lines and comments may stand anywhere between them.
-/

namespace ChipEight.Toml

/-- Whether a key may hold this character without quotation marks. -/
def isBare (c : Char) : Bool :=
  c.isAlphanum || c == '-' || c == '_'

namespace Reader

/-! ## Keys -/

def keyPart : Reader String := do
  if ← accept ['\x22'] then escapedLine
  else if ← accept ['\x27'] then verbatimLine
  else
    let text ← takeWhile isBare
    if text.isEmpty then fail else return String.ofList text

/-- Reads the parts of a key behind the first. Each begins with a point, so `limit` may be the
    number of characters left. -/
def moreParts : (limit : Nat) → Reader (List String)
  | 0 => return []
  | limit + 1 => do
    spaces
    if ← accept ['.'] then
      spaces
      let part ← keyPart
      return part :: (← moreParts limit)
    else return []

/-- Reads a key, with points between its parts, and the blanks behind it. -/
def key : Reader (List String) := do
  let first ← keyPart
  return first :: (← moreParts ((← get).length + 1))

def assigned : Reader (List String) := do
  let key ← key
  expect ['=']
  spaces
  return key

/-! ## Values -/

/-- Changes entries, unless that is refused. -/
def changed (entries : Option Entries) : Reader Entries :=
  match entries with
  | some entries => return entries
  | none => fail

/-- How much room there is for values that lie in each other: an array takes two of it, a table on a
    line three. -/
def maxRoom : Nat := 988

/-- Refuses to go deeper if there is not enough room. -/
def need (room needed : Nat) : Reader Unit := do
  if room < needed then throw .tooDeep

mutual

def value (room : Nat) : (limit : Nat) → Reader Value
  | 0 => fail
  | limit + 1 => do
    match ← quotation? with
    | some s => return .text s
    | none =>
      if ← accept "true".toList then return .boolean true
      else if ← accept "false".toList then return .boolean false
      else if ← accept ['['] then
        need room 3
        anyLayout
        return .array (← items (room - 2) limit)
      else if ← accept ['\x7b'] then
        need room 3
        spaces
        if ← accept ['\x7d'] then return .table []
        need room 5
        return .table (finishEntries (← fields (room - 3) [] limit))
      else number

def items (room : Nat) : (limit : Nat) → Reader (List Value)
  | 0 => fail
  | limit + 1 => do
    if ← accept [']'] then return []
    let v ← value room limit
    anyLayout
    if ← accept [','] then
      anyLayout
      return v :: (← items room limit)
    else
      expect [']']
      return [v]

/-- Reads the entries of a table on a line, at least one, and its closing brace. -/
def fields (room : Nat) (entries : Entries) : (limit : Nat) → Reader Entries
  | 0 => fail
  | limit + 1 => do
    let path ← assigned
    let v ← value room limit
    let entries ← changed (entries.put 0 v path)
    spaces
    if ← accept [','] then
      spaces
      fields room entries limit
    else
      expect ['\x7d']
      return entries

end

end Reader

/-! ## Lines -/

/-- A document that is being read: what it has come to, the table that the last header opened, and
    how many headers there were. -/
structure Draft where
  entries : Entries := []
  header : List String := []
  part : Nat := 0

namespace Draft

def put? (d : Draft) (key : List String) (v : Value) : Option Draft :=
  (d.entries.within (Entries.put d.part v key) d.header).map fun entries => { d with entries }

def openTable? (d : Draft) (key : List String) : Option Draft :=
  (d.entries.openTable key).map fun entries => ⟨entries, key, d.part + 1⟩

def appendTable? (d : Draft) (key : List String) : Option Draft :=
  (d.entries.appendTable key).map fun entries => ⟨entries, key, d.part + 1⟩

end Draft

namespace Reader

def accepted (draft : Option Draft) : Reader Draft :=
  match draft with
  | some draft => return draft
  | none => fail

def header (closing : List Char) (change : List String → Option Draft) : Reader Draft := do
  spaces
  let draft ← accepted (change (← key))
  expect closing
  return draft

def statement (d : Draft) : Reader Draft := do
  spaces
  match ← peek with
  | none | some '\n' | some '#' => return d
  | some '[' =>
    if ← accept ['[', '['] then header [']', ']'] d.appendTable?
    else
      expect ['[']
      header [']'] d.openTable?
  | some _ =>
    let path ← assigned
    -- Two calls may be needed for each character.
    let v ← value maxRoom (2 * (← get).length + 2)
    accepted (d.put? path v)

def lines (d : Draft) : (limit : Nat) → Reader Draft
  | 0 => return d
  | limit + 1 => do
    let d ← statement d
    spaces
    comment
    match ← peek with
    | none => return d
    | some _ =>
      expect ['\n']
      lines d limit

end Reader

/-- A text with a line feed for each pair of carriage return and line feed. What has been read of it
    is `taken`, backwards. -/
def joinLineEnds (taken : List Char) : List Char → List Char
  | [] => taken.reverse
  | '\r' :: '\n' :: text => joinLineEnds ('\n' :: taken) text
  | c :: text => joinLineEnds (c :: taken) text

def parse (text : String) : Except Error (List (String × Value)) := do
  let chars := joinLineEnds [] text.toList
  let (draft, _) ← Reader.lines {} (chars.length + 1) chars
  return finishEntries draft.entries

end ChipEight.Toml
