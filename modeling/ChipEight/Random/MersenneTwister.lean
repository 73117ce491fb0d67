/-!
# The Mersenne twister MT19937

A pseudorandom generator with a state of 624 words. `ofKey` seeds it from a list of words, so that
seeds of any size count in full; `next` draws a word.
-/

namespace ChipEight.Random

/-- The state of a Mersenne twister: its words and how many of them have been drawn since they were
    last made. -/
structure MersenneTwister where
  words : Vector UInt32 624
  drawn : Nat := 624
  deriving DecidableEq, Repr

namespace MersenneTwister

/-- The word at `i`, counted around the state. -/
def word (words : Vector UInt32 624) (i : Nat) : UInt32 :=
  words[(⟨i % 624, Nat.mod_lt _ (by decide)⟩ : Fin 624)]

/-- Replaces the word at `i`, counted around the state. -/
def setWord (words : Vector UInt32 624) (i : Nat) (w : UInt32) : Vector UInt32 624 :=
  words.set (i % 624) w (Nat.mod_lt _ (by decide))

/-! ## Seeding -/

/-- Mixes a word with its top two bits. -/
def fold (w : UInt32) : UInt32 :=
  w ^^^ (w >>> 30)

/-- Fills the state from one word: the next `count` words from index `i` on. -/
def fill (words : Vector UInt32 624) (i : Nat) : Nat → Vector UInt32 624
  | 0 => words
  | count + 1 =>
    let w := 1812433253 * fold (word words (i - 1)) + UInt32.ofNat i
    fill (setWord words i w) (i + 1) count

def ofWord (w : UInt32) : Vector UInt32 624 :=
  fill (setWord (Vector.replicate 624 0) 0 w) 1 623

/-- The index after `i`; behind the last word comes index 1, and word 0 becomes a copy of the
    last. -/
def advance (words : Vector UInt32 624) (i : Nat) : Vector UInt32 624 × Nat :=
  if 623 ≤ i then (setWord words 0 (word words 623), 1) else (words, i + 1)

/-- Mixes the key into the state, `count` words from index `i` on, starting with key word `j`. -/
def mixKey (key : Array UInt32) (words : Vector UInt32 624) (i j : Nat) : Nat → Vector UInt32 624 × Nat
  | 0 => (words, i)
  | count + 1 =>
    let w := (word words i ^^^ (fold (word words (i - 1)) * 1664525)) + key.getD j 0 + UInt32.ofNat j
    let (words, i) := advance (setWord words i w) i
    mixKey key words i (if j + 1 < key.size then j + 1 else 0) count

/-- Mixes the state with itself, `count` words from index `i` on. -/
def mixIndex (words : Vector UInt32 624) (i : Nat) : Nat → Vector UInt32 624
  | 0 => words
  | count + 1 =>
    let w := (word words i ^^^ (fold (word words (i - 1)) * 1566083941)) - UInt32.ofNat i
    let (words, i) := advance (setWord words i w) i
    mixIndex words i count

/-- The generator seeded by a key of words. -/
def ofKey (key : Array UInt32) : MersenneTwister :=
  let (words, i) := mixKey key (ofWord 19650218) 1 0 (max 624 key.size)
  ⟨setWord (mixIndex words i 623) 0 0x80000000, 624⟩

/-- The 32-bit words of a number, lowest first, at least one. -/
def keyOfNat (n : Nat) : Array UInt32 :=
  if n < 0x100000000 then #[UInt32.ofNat n] else #[UInt32.ofNat n] ++ keyOfNat (n / 0x100000000)
termination_by n
decreasing_by omega

/-- The generator seeded by an integer; its sign does not count. -/
def ofInt (seed : Int) : MersenneTwister :=
  ofKey (keyOfNat seed.natAbs)

/-! ## Drawing -/

/-- Makes the next `count` words of a new state from index `i` on. -/
def twist (words : Vector UInt32 624) (i : Nat) : Nat → Vector UInt32 624
  | 0 => words
  | count + 1 =>
    let y := (word words i &&& 0x80000000) ||| (word words (i + 1) &&& 0x7FFFFFFF)
    let w := word words (i + 397) ^^^ (y >>> 1) ^^^ (if y &&& 1 = 0 then 0 else 0x9908B0DF)
    twist (setWord words i w) (i + 1) count

/-- What is handed out for a word of the state. -/
def temper (y : UInt32) : UInt32 :=
  let y := y ^^^ (y >>> 11)
  let y := y ^^^ ((y <<< 7) &&& 0x9D2C5680)
  let y := y ^^^ ((y <<< 15) &&& 0xEFC60000)
  y ^^^ (y >>> 18)

def next (g : MersenneTwister) : UInt32 × MersenneTwister :=
  let g := if 624 ≤ g.drawn then ⟨twist g.words 0 624, 0⟩ else g
  (temper (word g.words g.drawn), { g with drawn := g.drawn + 1 })

/-- The draws that always hold one with a clear top bit: the top bits of the words drawn form a
    sequence of maximal length of a register of 19937 bits, in which at most 19937 ones follow each
    other. -/
def drawLimit : Nat := 19938

/-- Draws words until one has a clear top bit, and answers its next eight bits. -/
def nextByteWithin : Nat → MersenneTwister → UInt8 × MersenneTwister
  | 0, g => (0, g)
  | draws + 1, g =>
    let (w, g) := g.next
    let bits := w >>> 23
    if bits < 256 then (bits.toUInt8, g) else nextByteWithin draws g

/-- Draws a byte: the top nine bits of a word, drawn again while they do not fit. -/
def nextByte (g : MersenneTwister) : UInt8 × MersenneTwister :=
  nextByteWithin drawLimit g

end MersenneTwister

end ChipEight.Random
