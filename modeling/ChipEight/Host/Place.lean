import ChipEight.Host.Path

/-!
# Places

Where a path leads, once its points are taken at their word. A path may lead out of the working
directory: to the directories that it lies in, or to the root. How far the root is above the working
directory is not known, so each of the two has places of its own.
-/

namespace ChipEight.Host

/-- A directory that other places are found from. -/
inductive Base
  | above (levels : Nat)
  | root
  deriving DecidableEq, Repr

/-- A place by the names that lead to it. No name is empty or made of one or two points. -/
structure Place where
  base : Base := .above 0
  names : List String
  deriving DecidableEq, Repr

namespace Place

/-- The place that paths with an anchor start from. -/
def start : Anchor → Place
  | .here => ⟨.above 0, []⟩
  | .root | .doubleRoot => ⟨.root, []⟩

/-- The directory that a place lies in. The root lies in itself. -/
def up (p : Place) : Place :=
  match p.names, p.base with
  | [], .above levels => ⟨.above (levels + 1), []⟩
  | [], .root => p
  | _ :: _, _ => { p with names := p.names.dropLast }

/-- The place that a part of a path leads to. -/
def into (p : Place) (part : String) : Place :=
  if part = ".." then p.up else { p with names := p.names ++ [part] }

def toText (p : Place) : String :=
  match p.base with
  | .root => "/" ++ "/".intercalate p.names
  | .above levels => "/".intercalate (List.replicate levels ".." ++ p.names)

end Place

end ChipEight.Host
