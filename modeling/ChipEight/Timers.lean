/-!
# The two timers

The delay timer, which a program reads, and the sound timer, which sounds while it is above zero.
Both count down to zero, one each tick.
-/

namespace ChipEight

structure Timers where
  delay : Int := 0
  sound : Int := 0
  deriving DecidableEq, Repr

namespace Timers

/-- One count of a timer: down by one, and no further than zero. -/
def countDown (value : Int) : Int :=
  if 0 < value then value - 1 else value

theorem countDown_of_nonneg {value : Int} (h : 0 ≤ value) : countDown value = max 0 (value - 1) := by
  unfold countDown
  split <;> omega

def tick (t : Timers) : Timers :=
  ⟨countDown t.delay, countDown t.sound⟩

def soundActive (t : Timers) : Bool :=
  0 < t.sound

end Timers

end ChipEight
