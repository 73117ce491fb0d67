import ChipEight.Toml.Quotation
import ChipEight.Toml.Value

/-!
# Numbers and dates of a document

Everything that begins with a digit or a sign. Dates and times are tried before numbers, because
they begin as numbers do.
-/

namespace ChipEight.Toml

open Decimal (Binary64)

/-! ## Digits -/

def isDigitOf (base : Nat) (c : Char) : Bool :=
  (hexDigit? c).any (· < base)

/-- Reads the digits from here on, with single underscores between them. What has been read is
    `taken`, backwards. -/
def moreDigits (base : Nat) (taken : List Char) : List Char → List Char × List Char
  | [] => (taken.reverse, [])
  | '_' :: c :: text =>
    if isDigitOf base c then moreDigits base (c :: taken) text else (taken.reverse, '_' :: c :: text)
  | c :: text => if isDigitOf base c then moreDigits base (c :: taken) text else (taken.reverse, c :: text)

/-- Reads digits with single underscores between them, at least one. -/
def digits? (base : Nat) : List Char → Option (List Char × List Char)
  | [] => none
  | c :: text => if isDigitOf base c then some (moreDigits base [c] text) else none

def valueOf (base : Nat) (digits : List Char) : Nat :=
  digits.foldl (fun n c => n * base + (hexDigit? c).getD 0) 0

/-! ## Numbers -/

/-- Reads an integer behind the mark of another base. -/
def prefixed? : List Char → Option (Nat × List Char)
  | '0' :: 'x' :: text => (digits? 16 text).map fun (digits, text) => (valueOf 16 digits, text)
  | '0' :: 'b' :: text => (digits? 2 text).map fun (digits, text) => (valueOf 2 digits, text)
  | '0' :: 'o' :: text => (digits? 8 text).map fun (digits, text) => (valueOf 8 digits, text)
  | _ => none

/-- Takes a sign, if there is one, and tells whether it is a minus. -/
def sign : List Char → Bool × List Char
  | '-' :: text => (true, text)
  | '+' :: text => (false, text)
  | text => (false, text)

/-- Reads the digits in front of a point: no zero comes first unless it is alone. -/
def whole? : List Char → Option (List Char × List Char)
  | '0' :: text => some (['0'], text)
  | text => digits? 10 text

def fraction? : List Char → Option (List Char × List Char)
  | '.' :: text => digits? 10 text
  | _ => none

def exponent? : List Char → Option (Int × List Char)
  | 'e' :: text | 'E' :: text =>
    let (negative, text) := sign text
    (digits? 10 text).map fun (digits, text) =>
      (if negative then -(valueOf 10 digits : Int) else valueOf 10 digits, text)
  | _ => none

/-- Reads a number in decimal. With a point or an exponent it is a floating point number, otherwise
    an integer. -/
def decimal? (text : List Char) : Option (Except Error Value × List Char) := do
  let (negative, text) := sign text
  let (whole, text) ← whole? text
  match fraction? text, exponent? ((fraction? text).elim text (·.2)) with
  | none, none =>
    let n : Int := valueOf 10 whole
    let value := if Decimal.digitLimit < whole.length then .error .numberTooLong
      else .ok (.integer (if negative then -n else n))
    return (value, text)
  | fraction, exponent =>
    let digits := (fraction.map (·.1)).getD []
    let power := (exponent.map (·.1)).getD 0
    let rest := exponent.elim (fraction.elim text (·.2)) (·.2)
    return (.ok (.float (.ofDecimal negative (valueOf 10 (whole ++ digits)) (power - digits.length))), rest)

/-- Reads infinity, or what is no number. -/
def special? (text : List Char) : Option (Binary64 × List Char) :=
  let (negative, text) := sign text
  match text with
  | 'i' :: 'n' :: 'f' :: text => some (.infinite negative, text)
  | 'n' :: 'a' :: 'n' :: text => some (.nan, text)
  | _ => none

/-! ## Dates and times -/

def fixed? (width : Nat) (text : List Char) : Option (Nat × List Char) :=
  let digits := text.take width
  if digits.length = width ∧ digits.all (·.isDigit) then some (valueOf 10 digits, text.drop width) else none

/-- Reads two digits that make a number between two bounds. -/
def pair? (low high : Nat) (text : List Char) : Option (Nat × List Char) := do
  let (n, text) ← fixed? 2 text
  guard (low ≤ n ∧ n ≤ high)
  return (n, text)

def symbol? (c : Char) : List Char → Option (List Char)
  | [] => none
  | x :: text => if x = c then some text else none

/-- Reads a date; the month may still be too short for the day. -/
def date? (text : List Char) : Option (Date × List Char) := do
  let (year, text) ← fixed? 4 text
  let (month, text) ← pair? 1 12 (← symbol? '-' text)
  let (day, text) ← pair? 1 31 (← symbol? '-' text)
  return (⟨year, month, day⟩, text)

/-- Reads the fraction of a second in millionths. Digits beyond the sixth do not count. -/
def micros : List Char → Nat × List Char
  | '.' :: text =>
    let (digits, rest) := text.span (·.isDigit)
    if digits.isEmpty then (0, '.' :: text)
    else
      let digits := digits.take 6
      (valueOf 10 digits * Decimal.tenTo (6 - digits.length), rest)
  | text => (0, text)

def time? (text : List Char) : Option (Time × List Char) := do
  let (hour, text) ← pair? 0 23 text
  let (minute, text) ← pair? 0 59 (← symbol? ':' text)
  let (second, text) ← pair? 0 59 (← symbol? ':' text)
  let (micro, text) := micros text
  return (⟨hour, minute, second, micro⟩, text)

def offset? (text : List Char) : Option (Int × List Char) :=
  match text with
  | 'Z' :: text | 'z' :: text => some (0, text)
  | mark :: text => do
    guard (mark = '+' ∨ mark = '-')
    let (hours, text) ← pair? 0 23 text
    let (minutes, text) ← pair? 0 59 (← symbol? ':' text)
    let n : Int := hours * 60 + minutes
    return (if mark = '-' then -n else n, text)
  | [] => none

/-- Reads the time behind a date. -/
def timeOfDay? : List Char → Option (Time × Option Int × List Char)
  | c :: text => do
    guard (c = 'T' ∨ c = 't' ∨ c = ' ')
    let (time, text) ← time? text
    match offset? text with
    | some (offset, text) => return (time, some offset, text)
    | none => return (time, none, text)
  | [] => none

/-- Reads a date, with or without a time, or a time alone. -/
def moment? (text : List Char) : Option (Except Error Value × List Char) :=
  match date? text with
  | some (date, text) =>
    let checked (v : Value) : Except Error Value := if date.isValid then .ok v else .error .malformed
    match timeOfDay? text with
    | some (time, offset, text) => some (checked (.dateTime ⟨date, time, offset⟩), text)
    | none => some (checked (.date date), text)
  | none => (time? text).map fun (time, text) => (.ok (.time time), text)

/-! ## All of them -/

/-- Reads what begins with a digit, a sign, or the letters of infinity and of what is no number. -/
def Reader.number : Reader Value := fun text =>
  match moment? text with
  | some (value, text) => value.map (·, text)
  | none =>
    match prefixed? text with
    | some (n, text) => .ok (.integer n, text)
    | none =>
      match decimal? text with
      | some (value, text) => value.map (·, text)
      | none =>
        match special? text with
        | some (x, text) => .ok (.float x, text)
        | none => .error .malformed

end ChipEight.Toml
