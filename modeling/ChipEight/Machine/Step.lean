import ChipEight.Machine.Basic
import ChipEight.Opcode

/-!
# Steps

What each instruction does, and the step of fetching, decoding and performing one. A fault is always
found before anything is changed.
-/

namespace ChipEight.Machine

/-- Goes on with the result of a checked access, or faults as it did. -/
def ofExcept {α : Type} : Except Fault α → Exec α
  | .ok a => pure a
  | .error fault => throw fault

/-- Skips the next instruction if the state says so. -/
def skipWhen (condition : Machine → Bool) : Exec Advance := do
  return if condition (← get) then .skip else .next

/-- Changes the state and goes on to the next instruction. -/
def continueWith (change : Machine → Machine) : Exec Advance := do
  modify change
  return .next

/-- Changes the state, which has the program counter set, and goes on from there. -/
def jumpWith (change : Machine → Machine) : Exec Advance := do
  modify change
  return .jump

/-! ## Instructions that can fault -/

def performReturn : Exec Advance := do
  let m ← get
  match m.stack.pop? with
  | none => throw (.stackUnderflow m.pc)
  | some (pc, stack) => jumpWith fun m => { m with pc, stack }

def performCall (target : Address) : Exec Advance := do
  let m ← get
  -- The address kept is that of the call itself.
  match m.stack.push? m.pc with
  | none => throw (.stackOverflow m.pc)
  | some stack => jumpWith fun m => { m with pc := target, stack }

def performRandom (x : Register) (mask : UInt8) : Exec Advance := do
  let m ← get
  match m.random.next? with
  | none => throw .noRandomByte
  | some (b, random) => continueWith fun m => { m.setRegister x (b &&& mask) with random }

def performDraw (x y : Register) (rows : Nibble) : Exec Advance := do
  let m ← get
  -- All rows are read before the first pixel is touched.
  let sprite ← ofExcept (m.memory.readBlock m.index rows.val)
  let (collision, display) := m.display.draw (m.register x).toNat (m.register y).toNat sprite
  continueWith fun m => { m.setRegister .flag (if collision then 1 else 0) with display }

def performWrite (block : List UInt8) : Exec Advance := do
  let m ← get
  let memory ← ofExcept (m.memory.writeBlock m.index block)
  continueWith fun m => { m with memory }

def performRead (x : Register) : Exec Advance := do
  let m ← get
  let block ← ofExcept (m.memory.readVector m.index (x.val + 1))
  continueWith (·.setRegisters x block)

/-- Puts the lowest pressed key into register `x`, or has the instruction come again. -/
def performWaitKey (x : Register) : Exec Advance := do
  match (← get).keypad.firstPressed? with
  | none => return .again
  | some key => continueWith fun m => m.setRegister x (UInt8.ofNat key)

/-! ## All instructions -/

/-- Performs an instruction; the program counter is left to `advance` unless the instruction
    jumps. -/
def perform : Instruction → Exec Advance
  | .sys _ => return .next
  | .clear => continueWith fun m => { m with display := m.display.clear }
  | .ret => performReturn
  | .jump target => jumpWith fun m => { m with pc := target.val }
  | .call target => performCall target
  | .skipEqual x value => skipWhen fun m => m.register x == value
  | .skipUnequal x value => skipWhen fun m => m.register x != value
  | .skipSame x y => skipWhen fun m => m.register x == m.register y
  | .load x value => continueWith fun m => m.setRegister x value
  | .add x value => continueWith fun m => m.setRegister x (m.register x + value)
  | .copy x y => continueWith fun m => m.setRegister x (m.register y)
  | .or x y => continueWith fun m => m.setRegister x (m.register x ||| m.register y)
  | .and x y => continueWith fun m => m.setRegister x (m.register x &&& m.register y)
  | .xor x y => continueWith fun m => m.setRegister x (m.register x ^^^ m.register y)
  | .addRegister x y => continueWith fun m =>
    let (a, b) := (m.register x, m.register y)
    m.setWithFlag x (a + b) (0xFF < a.toNat + b.toNat)
  | .sub x y => continueWith fun m =>
    let (a, b) := (m.register x, m.register y)
    m.setWithFlag x (a - b) (b ≤ a)
  | .shiftRight x _ => continueWith fun m =>
    let a := m.register x
    m.setWithFlag x (a / 2) (a % 2 == 1)
  | .subFrom x y => continueWith fun m =>
    let (a, b) := (m.register x, m.register y)
    m.setWithFlag x (b - a) (a ≤ b)
  | .shiftLeft x _ => continueWith fun m =>
    let a := m.register x
    m.setWithFlag x (a * 2) (0x80 ≤ a)
  | .skipDifferent x y => skipWhen fun m => m.register x != m.register y
  | .loadIndex target => continueWith fun m => { m with index := target.val }
  | .jumpOffset target => jumpWith fun m => { m with pc := (m.register 0).toNat + target.val }
  | .random x mask => performRandom x mask
  | .draw x y rows => performDraw x y rows
  | .skipPressed x => skipWhen fun m => m.keypad.isPressed (m.register x).toNat
  | .skipReleased x => skipWhen fun m => !m.keypad.isPressed (m.register x).toNat
  | .readDelay x => continueWith fun m => m.setRegister x (UInt8.ofNat m.timers.delay.toNat)
  | .waitKey x => performWaitKey x
  | .setDelay x => continueWith fun m => { m with timers := { m.timers with delay := (m.register x).toNat } }
  | .setSound x => continueWith fun m => { m with timers := { m.timers with sound := (m.register x).toNat } }
  | .addIndex x => continueWith fun m => { m with index := (m.index + (m.register x).toNat) % 0x10000 }
  | .loadGlyph x => continueWith fun m => { m with index := (m.register x).toNat * Font.glyphSize }
  | .storeDecimal x => do
    let value := (← get).register x
    performWrite [value / 100, value / 10 % 10, value % 10]
  | .storeRegisters x => do performWrite ((← get).registers.toList.take (x.val + 1))
  | .loadRegisters x => performRead x

/-! ## Steps -/

def fetch : Exec Int := do
  let m ← get
  let word ← ofExcept (m.memory.readWord m.pc)
  return word

def execute (opcode : Int) : Exec Advance := do
  match Opcode.template? opcode with
  | none => throw (.opcodeTooWide opcode)
  | some template =>
    match Opcode.instruction? template opcode with
    | none => throw (.unknownOpcode opcode (← get).pc)
    | some instruction =>
      let advance ← perform instruction
      modify (·.advance advance)
      return advance

def step : Exec Advance := do
  execute (← fetch)

end ChipEight.Machine
