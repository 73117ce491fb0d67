import ChipEight.Text.Printable
import ChipEight.Text.Hexadecimal

/-!
# Quoted text

How a message shows a text that it is about: between quotes, with escapes for the quote, the
backslash, line breaks and everything that is not printable.
-/

namespace ChipEight.Text.Quoted

/-- The quote around a text: an apostrophe, unless the text holds one and no quotation mark. -/
def mark (text : List Char) : Char :=
  if text.contains '\x27' && !text.contains '\x22' then '\x22' else '\x27'

/-- The small hexadecimal digits of a number, filled with zeros to a width. -/
def hexDigits (n width : Nat) : List Char :=
  let digits := Nat.toDigits 16 n
  List.replicate (width - digits.length) '0' ++ digits

/-- What stands for a character between the quotes. -/
def escape (mark c : Char) : List Char :=
  if c = mark ∨ c = '\\' then ['\\', c]
  else if c = '\t' then ['\\', 't']
  else if c = '\n' then ['\\', 'n']
  else if c = '\r' then ['\\', 'r']
  else if isPrintable c then [c]
  else if c.toNat < 0x100 then '\\' :: 'x' :: hexDigits c.toNat 2
  else if c.toNat < 0x10000 then '\\' :: 'u' :: hexDigits c.toNat 4
  else '\\' :: 'U' :: hexDigits c.toNat 8

def quote (text : String) : String :=
  let chars := text.toList
  let mark := mark chars
  String.ofList (mark :: chars.flatMap (escape mark) ++ [mark])

end ChipEight.Text.Quoted
