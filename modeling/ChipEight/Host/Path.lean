/-!
# Paths

Names of files: the parts between slashes. Empty parts and single points mean nothing and are left
out; two points stay, because what they mean depends on the files that are there.
-/

namespace ChipEight.Host

inductive Anchor
  | here
  /-- In the directory that all others lie in, which is written as a slash. -/
  | root
  /-- The same, written as two slashes. No other number of slashes is kept. -/
  | doubleRoot
  deriving DecidableEq, Repr

def Anchor.toText : Anchor → String
  | .here => ""
  | .root => "/"
  | .doubleRoot => "//"

/-- The anchor that a text with this many slashes in front has. -/
def Anchor.ofSlashes : Nat → Anchor
  | 0 => .here
  | 2 => .doubleRoot
  | _ => .root

/-- A path by its parts. -/
structure Path where
  anchor : Anchor := .here
  parts : List String
  deriving DecidableEq, Repr

namespace Path

def ofString (text : String) : Path where
  anchor := .ofSlashes (text.toList.takeWhile (· == '/')).length
  parts := (text.splitOn "/").filter fun part => part != "" && part != "."

/-- The text of a path; that of the working directory is a point. -/
def toText (p : Path) : String :=
  if p.anchor = .here ∧ p.parts.isEmpty then "." else p.anchor.toText ++ "/".intercalate p.parts

/-- The directory that a path lies in; the topmost lies in itself. -/
def parent (p : Path) : Path :=
  { p with parts := p.parts.dropLast }

/-- A name without what follows its last point, unless nothing precedes or nothing follows that
    point. -/
def stemOf (name : List Char) : List Char :=
  let suffix := name.reverse.takeWhile (· != '.')
  let stem := (name.reverse.drop (suffix.length + 1)).reverse
  if suffix.isEmpty || stem.isEmpty then name else stem

/-- The last part of a path without its suffix. -/
def stem (p : Path) : String :=
  String.ofList (stemOf ((p.parts.getLast?.getD "").toList))

end Path

end ChipEight.Host
