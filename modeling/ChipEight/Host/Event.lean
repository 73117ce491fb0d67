import ChipEight.Host.HostKey
import ChipEight.Machine.Basic

/-!
# Events

What happens to a window between two frames, and what of it reaches the keypad.
-/

namespace ChipEight.Host

inductive Event
  | down (key : HostKey)
  | up (key : HostKey)
  | quit
  /-- The mouse does something, which nobody minds. -/
  | mouse
  deriving DecidableEq, Repr

inductive Turn
  | events (events : List Event)
  | interrupt
  deriving DecidableEq, Repr

namespace Event

/-- Whether an event ends the program: the window is closed, or the escape key goes down, bound or
    not. -/
def isQuit : Event → Bool
  | quit => true
  | down key => key == .escape
  | up _ | mouse => false

/-- Hands an event on to the keypad, if its key is bound. -/
def apply (bindings : Bindings) (m : Machine) : Event → Machine
  | down key => (bindings.key? key).elim m (m.press ·)
  | up key => (bindings.key? key).elim m (m.release ·)
  | quit | mouse => m

/-- Hands events on in order, up to one that ends the program, and tells whether there was none. -/
def applyAll (bindings : Bindings) (m : Machine) : List Event → Bool × Machine
  | [] => (true, m)
  | e :: events => if e.isQuit then (false, m) else applyAll bindings (e.apply bindings m) events

end Event

end ChipEight.Host
