import ChipEight.Assembly.Form

/-!
# Items of a text

What an assembler text consists of: labels and commands in any layout, with comments between them. A
stretch that is neither becomes an unknown item that reaches to the end of its line, so every text
has items.
-/

namespace ChipEight.Assembly

inductive Item
  | label (name : String)
  | command (command : Command)
  | unknown (text : String)
  deriving DecidableEq, Repr

namespace Scan

def label : Scan String := do
  let name ← name
  symbol ':'
  return name

def command : Scan Command :=
  longest (Form.all.map Form.read)

/-- Reads a command with its label, the comments and blanks behind it, and a comment between the
    two. -/
def statement : Scan (List Item) := do
  let label ← optional label
  let _ ← optional comment
  let command ← command
  let _ ← all comment
  separators
  return (label.map Item.label).toList ++ [.command command]

def stretch : Scan (List Item) :=
  longest [
    statement,
    -- A label alone does not take the blanks behind it, so a line that holds nothing else but ends
    -- in a blank is longer as an unknown stretch.
    do return [.label (← label)],
    do
      comment
      return [],
    do return [.unknown (← line)]]

def stretches : (limit : Nat) → Cursor → List Item
  | 0, _ => []
  | limit + 1, c =>
    match stretch c with
    | none => []
    | some (items, c) => items ++ stretches limit c

end Scan

def Item.ofText (text : List Char) : List Item :=
  -- Each stretch takes a character.
  Scan.stretches text.length (.start text)

end ChipEight.Assembly
