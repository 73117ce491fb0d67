/-!
# Hexadecimal text

How faults, dumps and log lines write a number: capital digits, a sign in front of a negative one,
and zeros filled in behind the sign up to a total width.
-/

namespace ChipEight.Text.Hexadecimal

/-- The capital hexadecimal digits of a number, at least one. -/
def digits (n : Nat) : List Char :=
  (Nat.toDigits 16 n).map Char.toUpper

/-- `n` in hexadecimal, filled with zeros to `width` characters; the sign counts as one of them. -/
def ofInt (n : Int) (width : Nat := 1) : String :=
  let sign := if n < 0 then ['-'] else []
  let body := digits n.natAbs
  String.ofList (sign ++ List.replicate (width - sign.length - body.length) '0' ++ body)

end ChipEight.Text.Hexadecimal
