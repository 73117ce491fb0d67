import ChipEight.Text.Blank
import ChipEight.Text.DecimalDigit

/-!
# Hexadecimal numerals

Integers as people write them into settings: blanks around them, a sign, the mark `0x`, and single
underscores between digits are all welcome, and the digits 0 to 9 may come from any script.
-/

namespace ChipEight.Text.Numeral

def digit? (c : Char) : Option Nat :=
  if 'a' ≤ c ∧ c ≤ 'f' then some (c.toNat - 'a'.toNat + 10)
  else if 'A' ≤ c ∧ c ≤ 'F' then some (c.toNat - 'A'.toNat + 10)
  else decimalDigit? c

/-- The number whose digits so far have come to `n`, with the digits to come. -/
def digits? (n : Nat) : List Char → Option Nat
  | [] => none
  | [c] => (digit? c).map (n * 16 + ·)
  | c :: '_' :: rest => (digit? c).bind fun d => digits? (n * 16 + d) rest
  | c :: rest => (digit? c).bind fun d => digits? (n * 16 + d) rest

/-- A number without a sign. An underscore may follow the mark. -/
def unsigned? (text : List Char) : Option Nat :=
  match text with
  | z :: x :: rest =>
    if decimalDigit? z = some 0 ∧ (x = 'x' ∨ x = 'X') then
      match rest with
      | '_' :: rest => digits? 0 rest
      | rest => digits? 0 rest
    else digits? 0 text
  | text => digits? 0 text

def signed? : List Char → Option Int
  | '-' :: text => (unsigned? text).map fun n => -(n : Int)
  | '+' :: text => (unsigned? text).map Int.ofNat
  | text => (unsigned? text).map Int.ofNat

def trim (text : List Char) : List Char :=
  ((text.dropWhile isBlank).reverse.dropWhile isBlank).reverse

def hexadecimal? (text : String) : Option Int :=
  signed? (trim text.toList)

end ChipEight.Text.Numeral
