import ChipEight.Random.MersenneTwister

/-!
# Sources of random bytes

Where a machine takes its random bytes from: a fixed sequence, replayed over and over, or a seeded
generator.
-/

namespace ChipEight.Random

inductive Source
  /-- Replays `values` from the start when it is used up; `taken` bytes have been taken so far. -/
  | sequence (values : Array UInt8) (taken : Nat)
  | twister (generator : MersenneTwister)
  deriving DecidableEq, Repr

namespace Source

/-- Replays the low bytes of a list of integers. -/
def ofList (values : List Int) : Source :=
  .sequence (values.map fun v => UInt8.ofNat (v % 256).toNat).toArray 0

def ofSeed (seed : Int) : Source :=
  .twister (.ofInt seed)

/-- Takes the next byte. Only an empty sequence has none. -/
def next? : Source → Option (UInt8 × Source)
  | .sequence values taken =>
    (values[taken % values.size]?).map fun b => (b, .sequence values (taken + 1))
  | .twister generator =>
    let (b, generator) := generator.nextByte
    some (b, .twister generator)

def take? (s : Source) : Nat → Option (List UInt8 × Source)
  | 0 => some ([], s)
  | n + 1 => do
    let (b, s) ← s.next?
    let (bytes, s) ← s.take? n
    return (b :: bytes, s)

end Source

end ChipEight.Random
