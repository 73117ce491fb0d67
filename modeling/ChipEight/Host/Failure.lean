import ChipEight.Decimal.Limit
import ChipEight.Host.FileTree

/-!
# Failures of commands

What ends a command that is no error of the program or the settings it was given, and the reading of
text files, where most of it comes from.
-/

namespace ChipEight.Host

inductive Failure
  | file (e : FileError)
  /-- A file that should be text is none. -/
  | undecodable (e : Text.Utf8.Error)
  | numberTooLong
  deriving DecidableEq, Repr

def Failure.message : Failure → String
  | .file e => e.message
  | .undecodable e => e.message
  | .numberTooLong => Decimal.limitMessage

def readBytes (t : FileTree) (p : Path) : Except Failure (List UInt8) :=
  (t.read p).mapError .file

/-- The text of a file, with a line feed at the end of each line. -/
def readText (t : FileTree) (p : Path) : Except Failure String := do
  let bytes ← readBytes t p
  let text ← (Text.Utf8.decode bytes).mapError .undecodable
  return String.ofList (Text.Lines.unify text)

end ChipEight.Host
