/-!
# UTF-8

Reading bytes as UTF-8 text. An overlong form, a surrogate and a code point above the last one are
refused at the byte that makes them so, as an invalid continuation.
-/

namespace ChipEight.Text.Utf8

inductive Cause
  | invalidStart
  | invalidContinuation
  | unexpectedEnd
  deriving DecidableEq, Repr

def Cause.message : Cause → String
  | .invalidStart => "invalid start byte"
  | .invalidContinuation => "invalid continuation byte"
  | .unexpectedEnd => "unexpected end of data"

/-- The bytes that could not be read: where they begin, how many they are, and the first of them. -/
structure Error where
  start : Nat
  count : Nat
  first : UInt8
  cause : Cause
  deriving DecidableEq, Repr

/-- The wording of an error: a single byte is shown, several are only placed. -/
def Error.message (e : Error) : String :=
  let digits := Nat.toDigits 16 e.first.toNat
  let shown := String.ofList (List.replicate (2 - digits.length) '0' ++ digits)
  let what :=
    if e.count = 1 then s!"byte 0x{shown} in position {e.start}"
    else s!"bytes in position {e.start}-{e.start + e.count - 1}"
  s!"'utf-8' codec can't decode {what}: {e.cause.message}"

def isContinuation (b : UInt8) : Bool :=
  b &&& 0xC0 == 0x80

/-- How many bytes follow a leading byte, and the bits that it gives. -/
def lead? (b : UInt8) : Option (Nat × Nat) :=
  if b < 0x80 then some (0, b.toNat)
  else if b < 0xC2 then none
  else if b < 0xE0 then some (1, b.toNat % 0x20)
  else if b < 0xF0 then some (2, b.toNat % 0x10)
  else if b < 0xF5 then some (3, b.toNat % 0x08)
  else none

/-- Whether `second` may follow the leading byte `first`. Some leads take only a part of the
    continuation bytes, which rules out overlong forms, surrogates and numbers beyond the last code
    point. -/
def isSecond (first second : UInt8) : Bool :=
  isContinuation second &&
    !(first == 0xE0 && second < 0xA0) && !(first == 0xED && 0xA0 ≤ second) &&
    !(first == 0xF0 && second < 0x90) && !(first == 0xF4 && 0x90 ≤ second)

/-- Reads the `missing` bytes that a character still lacks: its code point and the bytes behind it,
    or how many bytes were fit and why the next one is not. -/
def continuation (fits : UInt8 → Bool) (code seen : Nat) :
    (missing : Nat) → List UInt8 → Except (Nat × Cause) (Nat × List UInt8)
  | 0, bytes => .ok (code, bytes)
  | _ + 1, [] => .error (seen, .unexpectedEnd)
  | missing + 1, b :: bytes =>
    if fits b then continuation isContinuation (code * 0x40 + b.toNat % 0x40) (seen + 1) missing bytes
    else .error (seen, .invalidContinuation)

/-- Reads one character from bytes that begin with `first`: the character, how many bytes it takes,
    and the bytes behind it, or how many bytes are at fault and why. -/
def character (first : UInt8) (bytes : List UInt8) : Except (Nat × Cause) (Char × Nat × List UInt8) :=
  match lead? first with
  | none => .error (1, .invalidStart)
  | some (missing, bits) => do
    let (code, bytes) ← continuation (isSecond first) bits 1 missing bytes
    return (Char.ofNat code, missing + 1, bytes)

/-- Reads characters until the bytes end, `position` bytes having been read. Each takes at least one
    byte, so `fuel` may be the number of bytes. -/
def decodeFrom (position : Nat) (text : List Char) : (fuel : Nat) → List UInt8 → Except Error (List Char)
  | 0, _ | _, [] => .ok text.reverse
  | fuel + 1, first :: bytes =>
    match character first bytes with
    | .error (count, cause) => .error ⟨position, count, first, cause⟩
    | .ok (c, count, rest) => decodeFrom (position + count) (c :: text) fuel rest

def decode (bytes : List UInt8) : Except Error (List Char) :=
  decodeFrom 0 [] bytes.length bytes

end ChipEight.Text.Utf8
