/-!
# Line ends

A line may end in a line feed, a carriage return, or the two together. Text is read with a line feed
for each of them.
-/

namespace ChipEight.Text.Lines

/-- Puts a text behind one whose line ends are unified already, which is kept backwards. -/
def unifyOnto (unified : List Char) : List Char → List Char
  | [] => unified
  | '\r' :: '\n' :: text => unifyOnto ('\n' :: unified) text
  | '\r' :: text => unifyOnto ('\n' :: unified) text
  | c :: text => unifyOnto (c :: unified) text

/-- A text with a line feed for each of its line ends. -/
def unify (text : List Char) : List Char :=
  (unifyOnto [] text).reverse

end ChipEight.Text.Lines
