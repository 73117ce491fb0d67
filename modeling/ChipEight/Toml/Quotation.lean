import ChipEight.Toml.Reader

/-!
# Strings of a document

Strings stand between quotation marks, with escapes, or between apostrophes, as they are. Three
marks in a row begin a string that may hold line breaks.
-/

namespace ChipEight.Toml

def hexDigit? (c : Char) : Option Nat :=
  if c.isDigit then some (c.toNat - '0'.toNat)
  else if 'a' ≤ c ∧ c ≤ 'f' then some (c.toNat - 'a'.toNat + 10)
  else if 'A' ≤ c ∧ c ≤ 'F' then some (c.toNat - 'A'.toNat + 10)
  else none

/-- The character whose code point stands in the first `width` characters, and the text behind
    them. -/
def codePoint? (width : Nat) (text : List Char) : Option (Char × List Char) := do
  let digits := text.take width
  guard (digits.length = width)
  let n ← digits.foldlM (fun n c => (hexDigit? c).map (n * 16 + ·)) 0
  if h : n.isValidChar then return (Char.ofNatAux n h, text.drop width) else none

/-- What the escape behind a backslash stands for, and the text behind it. -/
def escape? : List Char → Option (Char × List Char)
  | 'b' :: text => some ('\x08', text)
  | 't' :: text => some ('\t', text)
  | 'n' :: text => some ('\n', text)
  | 'f' :: text => some ('\x0c', text)
  | 'r' :: text => some ('\r', text)
  | '\x22' :: text => some ('\x22', text)
  | '\\' :: text => some ('\\', text)
  | 'u' :: text => codePoint? 4 text
  | 'U' :: text => codePoint? 8 text
  | _ => none

/-- The text behind a line break that a backslash takes away, together with the blanks around it. -/
def continuation? (text : List Char) : Option (List Char) :=
  match text.head? with
  | some '\n' | some ' ' | some '\t' =>
    match text.dropWhile isSpace with
    -- At the end of the text the line break may be missing.
    | [] => some []
    | '\n' :: text => some (text.dropWhile fun c => isSpace c || c == '\n')
    | _ => none
  | _ => none

/-- Reads a string with escapes up to its closing marks. What has been read of it is `taken`,
    backwards. Each round takes a character, so `limit` may be their number. -/
def escaped (multiline : Bool) (taken : List Char) : (limit : Nat) → List Char → Option (List Char × List Char)
  | 0, _ | _, [] => none
  | limit + 1, c :: text =>
    if c = '\x22' then
      if !multiline then some (taken.reverse, text)
      else if ['\x22', '\x22'].isPrefixOf text then some (taken.reverse, text.drop 2)
      else escaped multiline (c :: taken) limit text
    else if c = '\\' then
      match if multiline then continuation? text else none with
      | some text => escaped multiline taken limit text
      | none =>
        match escape? text with
        | some (c, text) => escaped multiline (c :: taken) limit text
        | none => none
    else if isControl c && !(multiline && c == '\n') then none
    else escaped multiline (c :: taken) limit text

/-- Reads a string without escapes that may hold line breaks up to its closing marks. -/
def verbatim (taken : List Char) : List Char → Option (List Char × List Char)
  | [] => none
  | '\x27' :: '\x27' :: '\x27' :: text => some (taken.reverse, text)
  | c :: text => if isControl c && c != '\n' then none else verbatim (c :: taken) text

namespace Reader

def ofOption {α : Type} (read : List Char → Option (α × List Char)) : Reader α := fun text =>
  match read text with
  | some result => .ok result
  | none => .error .malformed

/-- Reads a string with escapes on one line; the opening mark has been taken. -/
def escapedLine : Reader String := do
  return String.ofList (← ofOption fun text => escaped false [] text.length text)

/-- Reads a string without escapes on one line; the opening mark has been taken. -/
def verbatimLine : Reader String := do
  let text ← takeWhile fun c => c != '\x27' && !isControl c
  expect ['\x27']
  return String.ofList text

/-- Up to two more marks before the closing ones belong to the string. -/
def moreMarks (mark : Char) : Reader (List Char) := do
  if ← accept [mark, mark] then return [mark, mark]
  if ← accept [mark] then return [mark]
  return []

/-- Reads a string that may hold line breaks; the opening marks have been taken. -/
def multiline (mark : Char) (read : List Char → Option (List Char × List Char)) : Reader String := do
  -- A line break right behind the opening marks does not count.
  let _ ← accept ['\n']
  let body ← ofOption read
  return String.ofList (body ++ (← moreMarks mark))

def quotation? : Reader (Option String) := do
  if ← accept ['\x22', '\x22', '\x22'] then
    return some (← multiline '\x22' fun text => escaped true [] text.length text)
  else if ← accept ['\x27', '\x27', '\x27'] then return some (← multiline '\x27' (verbatim []))
  else if ← accept ['\x22'] then return some (← escapedLine)
  else if ← accept ['\x27'] then return some (← verbatimLine)
  else return none

end Reader

end ChipEight.Toml
