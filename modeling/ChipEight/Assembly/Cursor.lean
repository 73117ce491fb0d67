/-!
# Places in a text

An assembler text is read by moving a cursor through it. The cursor knows the character in front of
it, because a keyword must not begin in the middle of a word, and how far it has come, because of
two ways to read a text the longer one is taken.
-/

namespace ChipEight.Assembly

/-- A place in a text: the characters passed, the last of them, and the characters ahead. -/
structure Cursor where
  position : Nat
  before : Option Char
  rest : List Char
  deriving DecidableEq, Repr

namespace Cursor

def start (text : List Char) : Cursor := ⟨0, none, text⟩

/-- Moves over characters, leaving `rest` ahead. -/
def move (c : Cursor) (taken rest : List Char) : Cursor :=
  ⟨c.position + taken.length, taken.getLast?.or c.before, rest⟩

end Cursor

/-- A way to read something at a cursor, which either fails or answers what it read and where the
    cursor is then. -/
abbrev Scan := StateT Cursor Option

namespace Scan

def span (p : Char → Bool) : Scan (List Char) := fun c =>
  let (taken, rest) := c.rest.span p
  some (taken, c.move taken rest)

/-- Reads characters of which `p` holds, at least one. -/
def someOf (p : Char → Bool) : Scan (List Char) := do
  let taken ← span p
  if taken.isEmpty then failure else return taken

def char (p : Char → Bool) : Scan Char := fun c =>
  match c.rest with
  | [] => none
  | x :: rest => if p x then some (x, c.move [x] rest) else none

/-- Succeeds where nothing or a character of which `p` holds is ahead. -/
def ahead (p : Char → Bool) : Scan Unit := fun c =>
  if c.rest.head?.all p then some ((), c) else none

/-- Succeeds where nothing or a character of which `p` holds was passed last. -/
def behind (p : Char → Bool) : Scan Unit := fun c =>
  if c.before.all p then some ((), c) else none

/-- Reads `p` as often as it can be read, but no more than `limit` times. -/
def many {α : Type} (p : Scan α) : (limit : Nat) → Scan (List α)
  | 0 => return []
  | limit + 1 => do
    match ← optional p with
    | none => return []
    | some a => return a :: (← many p limit)

def all {α : Type} (p : Scan α) : Scan (List α) := do
  -- Each time a character is taken, so there is an end.
  many p (← get).rest.length

/-- Of two results the one that came farther, or the first if both came as far. -/
def farther {α : Type} : Option (α × Cursor) → Option (α × Cursor) → Option (α × Cursor)
  | none, b => b
  | some a, none => some a
  | some a, some b => if a.2.position < b.2.position then some b else some a

/-- Reads whichever of the alternatives comes farthest, the first of those that come as far. -/
def longest {α : Type} (alternatives : List (Scan α)) : Scan α := fun c =>
  alternatives.foldl (fun best p => farther best (p c)) none

end Scan

end ChipEight.Assembly
