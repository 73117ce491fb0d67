/-!
# Journals

What a command tells while it works, in lines that each have a level. The lowest level is for those
who ask for details.
-/

namespace ChipEight.Host

inductive Level
  | debug
  | info
  | warning
  | error
  deriving DecidableEq, Repr

def Level.name : Level → String
  | .debug => "DEBUG"
  | .info => "INFO"
  | .warning => "WARNING"
  | .error => "ERROR"

def Level.heading (l : Level) : String := s!"{l.name}:root:"

def Level.headsText (text : String) : Bool :=
  [debug, info, warning, error].any fun l => text.startsWith l.heading

structure Line where
  level : Level
  text : String
  deriving DecidableEq, Repr

/-- A line as it is written, which is in several lines if its message is. -/
def Line.written (l : Line) : List String :=
  (l.level.heading ++ l.text).splitOn "\n"

/-- What a reader takes for lines of the journal: those with a heading. A carriage return at the end
    of a line belongs to the line end. -/
def Line.entries (l : Line) : List String :=
  l.written.filter Level.headsText |>.map fun text =>
    if text.endsWith "\r" then String.ofList text.toList.dropLast else text

structure Journal where
  /-- Whether details are wanted. -/
  verbose : Bool
  lines : Array Line := #[]
  deriving DecidableEq, Repr

/-- Adds a line, unless it is a detail that nobody wants. -/
def Journal.add (j : Journal) (level : Level) (text : String) : Journal :=
  if level = .debug ∧ !j.verbose then j else { j with lines := j.lines.push ⟨level, text⟩ }

end ChipEight.Host
