import ChipEight.Decimal.Shortest

/-!
# Layout of decimal text

How the digits of a floating point number are set: where the point goes, and when an exponent is
written.
-/

namespace ChipEight.Decimal

/-- The decisions that make text of digits. -/
structure Layout where
  /-- The least exponent of a leading digit that is set without an exponent. -/
  leastPlain : Int
  greatestPlain : Int
  /-- What follows a whole number that is set without an exponent. -/
  wholeSuffix : String
  /-- The mark in front of an exponent. -/
  mark : String
  /-- The least number of digits of an exponent. -/
  exponentWidth : Nat
  nan : String
  infinite : String

/-- Exponents are written below a ten-thousandth and from ten to the sixteenth on, with a sign and
    at least two digits; a whole number shows by a zero behind its point that it is a floating point
    number. -/
def standard : Layout where
  leastPlain := -4
  greatestPlain := 15
  wholeSuffix := ".0"
  mark := "e"
  exponentWidth := 2
  nan := "nan"
  infinite := "inf"

namespace Layout

/-- Digits without the zeros at their end, of which one is left if there is nothing else. -/
def trim (digits : List Char) : List Char :=
  match (digits.reverse.dropWhile (· == '0')).reverse with
  | [] => ['0']
  | trimmed => trimmed

def exponent (l : Layout) (n : Int) : String :=
  let digits := Nat.toDigits 10 n.natAbs
  let sign := if n < 0 then '-' else '+'
  l.mark ++ String.ofList (sign :: List.replicate (l.exponentWidth - digits.length) '0' ++ digits)

/-- Digits with a point behind the first `whole` of them; zeros are filled in where digits are
    lacking. -/
def plain (l : Layout) (digits : List Char) (whole : Int) : String :=
  if whole ≤ 0 then "0." ++ String.ofList (List.replicate (-whole).toNat '0' ++ digits)
  else if digits.length ≤ whole.toNat then
    String.ofList (digits ++ List.replicate (whole.toNat - digits.length) '0') ++ l.wholeSuffix
  else String.ofList (digits.take whole.toNat) ++ "." ++ String.ofList (digits.drop whole.toNat)

/-- Digits with an exponent, and a point behind the first digit if there are others. -/
def scientific (l : Layout) (digits : List Char) (leading : Int) : String :=
  match digits with
  | first :: rest@(_ :: _) => String.ofList [first, '.'] ++ String.ofList rest ++ l.exponent leading
  | digits => String.ofList digits ++ l.exponent leading

/-- The text of a positive number whose digits as a whole number are `n` and whose last digit has
    the exponent `last`. -/
def digits (l : Layout) (n : Nat) (last : Int) : String :=
  let all := Nat.toDigits 10 n
  let leading : Int := last + all.length - 1
  if l.leastPlain ≤ leading ∧ leading ≤ l.greatestPlain then l.plain (trim all) (leading + 1)
  else l.scientific (trim all) leading

def write (l : Layout) : Binary64 → String
  | .nan => l.nan
  | .infinite negative => (if negative then "-" else "") ++ l.infinite
  | .finite negative mantissa exponent =>
    let body :=
      if mantissa = 0 then "0" ++ l.wholeSuffix
      else
        let (n, last) := Binary64.shortest mantissa exponent
        l.digits n last
    (if negative then "-" else "") ++ body

end Layout

end ChipEight.Decimal
