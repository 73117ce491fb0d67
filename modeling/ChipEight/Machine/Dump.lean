import ChipEight.Machine.Run

/-!
# Dumps

The registers of a machine on one line, as they are logged after each step.
-/

namespace ChipEight.Machine

def dumpFields (m : Machine) : List (String × Int) :=
  [("PC", m.pc), ("I", m.index), ("SP", m.stack.depth), ("DT", m.timers.delay), ("ST", m.timers.sound)] ++
    (List.finRange 16).map fun x => (s!"V{Text.Hexadecimal.ofInt x.val}", ((m.register x).toNat : Int))

def dump (m : Machine) : String :=
  " ".intercalate (m.dumpFields.map fun (name, value) => s!"{name}:{Text.Hexadecimal.ofInt value}")

/-- The machine after each completed step of a frame of `cycles` steps. -/
def stepStates : Nat → Machine → List Machine
  | 0, _ => []
  | cycles + 1, m =>
    match step m with
    | .error _ _ => []
    | .ok _ m => m :: stepStates cycles m

end ChipEight.Machine
