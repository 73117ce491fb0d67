import ChipEight.Machine.Step

/-!
# Runs

Steps in a row, and frames: a number of steps and then one tick of the timers.
-/

namespace ChipEight.Machine

def steps : Nat → Exec Unit
  | 0 => return
  | n + 1 => do
    let _ ← step
    steps n

/-- How far a run came: the steps completed, what the last of them did with the program counter, and
    the fault that ended the run early. -/
structure Progress where
  completed : Nat
  last : Option Advance
  fault : Option Fault
  deriving DecidableEq, Repr

def run : Nat → Machine → Progress × Machine
  | 0, m => (⟨0, none, none⟩, m)
  | n + 1, m =>
    match step m with
    | .error fault m => (⟨0, none, some fault⟩, m)
    | .ok advance m =>
      let (progress, m) := run n m
      ({ progress with completed := progress.completed + 1, last := progress.last.or (some advance) }, m)

/-- One frame: `cycles` steps, none if the number is negative, and a tick. -/
def runFrame (cycles : Int) : Exec Unit := do
  steps cycles.toNat
  modify tick

def runFrames (frames : Nat) (cycles : Int) : Exec Unit :=
  match frames with
  | 0 => return
  | frames + 1 => do
    runFrame cycles
    runFrames frames cycles

end ChipEight.Machine
