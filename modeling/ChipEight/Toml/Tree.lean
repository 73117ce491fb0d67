import ChipEight.Toml.Value

/-!
# Building tables

A document fills its tables bit by bit, by headers and by dotted keys, and each of the two may only
reopen some of the tables that are there. So a table that is being built remembers how it came
about, and a finished value cannot be reopened at all. The parts of a document, which headers begin,
are numbered.
-/

namespace ChipEight.Toml

inductive Origin
  /-- As a step on the way to a table that a header names. -/
  | implicit
  /-- As a step of a dotted key, in the part of the document with this number. -/
  | dotted (part : Nat)
  /-- By a header of its own. -/
  | header
  deriving DecidableEq, Repr

/-- What a key of a table that is being built stands for. -/
inductive Node
  | value (v : Value)
  | table (origin : Origin) (entries : List (String × Node))
  /-- An array of tables that headers add to; only the last of them is still being built. -/
  | tables (earlier : List (List (String × Node))) (last : List (String × Node))

abbrev Entries := List (String × Node)

namespace Entries

/-- Changes what a key stands for, or adds the key at the end. The change may be refused. -/
def update (key : String) (change : Option Node → Option Node) : Entries → Option Entries
  | [] => (change none).map fun node => [(key, node)]
  | (k, node) :: entries =>
    if k = key then (change (some node)).map fun node => (k, node) :: entries
    else (update key change entries).map ((k, node) :: ·)

def openTable : List String → Entries → Option Entries
  | [], _ => none
  | [key], entries => entries.update key fun
    | none => some (.table .header [])
    | some (.table .implicit inner) => some (.table .header inner)
    -- A header or a dotted key has opened it before.
    | some _ => none
  | key :: path, entries => entries.update key fun
    | none => (openTable path []).map (.table .implicit)
    | some (.table origin inner) => (openTable path inner).map (.table origin)
    | some (.tables earlier last) => (openTable path last).map (.tables earlier)
    | some (.value _) => none

def appendTable : List String → Entries → Option Entries
  | [], _ => none
  | [key], entries => entries.update key fun
    | none => some (.tables [] [])
    | some (.tables earlier last) => some (.tables (earlier ++ [last]) [])
    | some _ => none
  | key :: path, entries => entries.update key fun
    | none => (appendTable path []).map (.table .implicit)
    | some (.table origin inner) => (appendTable path inner).map (.table origin)
    | some (.tables earlier last) => (appendTable path last).map (.tables earlier)
    | some (.value _) => none

/-- Puts a value at a dotted key. -/
def put (part : Nat) (v : Value) : List String → Entries → Option Entries
  | [], _ => none
  | [key], entries => entries.update key fun
    | none => some (.value v)
    | some _ => none
  | key :: path, entries => entries.update key fun
    -- On the way only tables may be passed that no header has opened and no dotted key of another
    -- part of the document. Those passed now belong to dotted keys of this part.
    | none => (put part v path []).map (.table (.dotted part))
    | some (.table .implicit inner) => (put part v path inner).map (.table (.dotted part))
    | some (.table (.dotted s) inner) =>
      if s = part then (put part v path inner).map (.table (.dotted part)) else none
    | some _ => none

/-- Changes the table that the last header has opened. -/
def within (change : Entries → Option Entries) : (header : List String) → Entries → Option Entries
  | [], entries => change entries
  | key :: path, entries => entries.update key fun
    | some (.table origin inner) => (within change path inner).map (.table origin)
    | some (.tables earlier last) => (within change path last).map (.tables earlier)
    | _ => none

end Entries

/-! ## Finished tables -/

mutual

def Node.finish : Node → Value
  | .value v => v
  | .table _ entries => .table (finishEntries entries)
  | .tables earlier last => .array (finishAll earlier ++ [.table (finishEntries last)])

def finishEntries : List (String × Node) → List (String × Value)
  | [] => []
  | (key, node) :: entries => (key, node.finish) :: finishEntries entries

def finishAll : List (List (String × Node)) → List Value
  | [] => []
  | entries :: rest => .table (finishEntries entries) :: finishAll rest

end

end ChipEight.Toml
