/-!
# Reading a document

What the readers of the parts of a document are made of. A reader takes characters from the front of
a text, or finds that the text is no document.
-/

namespace ChipEight.Toml

inductive Error
  | malformed
  | numberTooLong
  | tooDeep
  deriving DecidableEq, Repr

/-- Takes characters from the front of a text. -/
abbrev Reader := StateT (List Char) (Except Error)

def isSpace (c : Char) : Bool :=
  c == ' ' || c == '\t'

/-- Whether a character is a control character, which may not stand in strings and comments; the tab
    is none. -/
def isControl (c : Char) : Bool :=
  (c.toNat < 0x20 && c != '\t') || c.toNat == 0x7F

namespace Reader

def fail {α : Type} : Reader α := throw .malformed

def peek : Reader (Option Char) := return (← get).head?

/-- Takes the characters from here on of which `p` holds. -/
def takeWhile (p : Char → Bool) : Reader (List Char) := fun text => .ok (text.span p)

/-- Passes over the characters from here on of which `p` holds. -/
def skipWhile (p : Char → Bool) : Reader Unit := do
  let _ ← takeWhile p

def spaces : Reader Unit := skipWhile isSpace

/-- Whether the text goes on with these characters; if so, they are taken. -/
def accept (expected : List Char) : Reader Bool := fun text =>
  .ok (if expected.isPrefixOf text then (true, text.drop expected.length) else (false, text))

def expect (expected : List Char) : Reader Unit := do
  unless ← accept expected do fail

def comment : Reader Unit := do
  if ← accept ['#'] then
    let text ← takeWhile (· != '\n')
    if text.any isControl then fail

/-- What follows spaces, line breaks and comments, of which the first may have begun. -/
def afterLayout (inComment : Bool) : List Char → Except Error (List Char)
  | [] => .ok []
  | c :: text =>
    if c = '\n' then afterLayout false text
    else if inComment then if isControl c then .error .malformed else afterLayout true text
    else if isSpace c then afterLayout false text
    else if c = '#' then afterLayout true text
    else .ok (c :: text)

/-- Passes over everything that may stand between the items of an array. -/
def anyLayout : Reader Unit := fun text => (afterLayout false text).map ((), ·)

end Reader

end ChipEight.Toml
