/-!
# Blanks

The characters that may stand around a number without being part of it.
-/

namespace ChipEight.Text

/-- The blanks beyond ASCII. -/
def wideBlanks : List Nat := [
  0x85, 0xA0, 0x1680, 0x2000, 0x2001, 0x2002, 0x2003, 0x2004, 0x2005, 0x2006, 0x2007, 0x2008, 0x2009, 0x200A, 0x2028,
  0x2029, 0x202F, 0x205F, 0x3000]

/-- Whether a character is a blank: a space, a tab, one of the line and page breaks, or a blank
    beyond ASCII. -/
def isBlank (c : Char) : Bool :=
  c == ' ' || (9 ≤ c.toNat && c.toNat ≤ 13) || wideBlanks.contains c.toNat

end ChipEight.Text
