/-!
# Arguments of commands

How the words behind a command are read. A word with a dash in front names options: two dashes and
the long name of one, with its value behind an equals sign if need be, or one dash and the letters
of several. An option that takes a value and has none in its own word takes the next word, whatever
it is. Two dashes alone end the options.
-/

namespace ChipEight.Host

structure OptionSpec where
  letter : Char
  name : String
  takesValue : Bool := false
  deriving DecidableEq, Repr

inductive Refusal
  /-- The words do not fit the command. The answer tells how it is used. -/
  | usage
  /-- An option lacks its value or must have none. The answer tells only that. -/
  | misuse
  deriving DecidableEq, Repr

structure Arguments where
  /-- The letters of the options, with their values, in order. -/
  options : List (Char × String) := []
  positional : List String := []
  /-- The option that takes the next word as its value. -/
  pending : Option Char := none
  verbatim : Bool := false
  deriving DecidableEq, Repr

namespace Arguments

/-- Notes an option with its value; flags have an empty one. -/
def note (a : Arguments) (letter : Char) (value : String) : Arguments :=
  { a with options := a.options ++ [(letter, value)], pending := none }

/-- Takes the long name of an option and the value attached to it. -/
def takeLong (specs : List OptionSpec) (a : Arguments) (name : String) (value : Option String) :
    Except Refusal Arguments :=
  match specs.find? (·.name == name), value with
  | none, _ => .error .usage
  | some spec, some value => if spec.takesValue then .ok (a.note spec.letter value) else .error .misuse
  | some spec, none => .ok (if spec.takesValue then { a with pending := some spec.letter } else a.note spec.letter "")

def takeLetters (specs : List OptionSpec) (a : Arguments) : List Char → Except Refusal Arguments
  | [] => .ok a
  | letter :: rest =>
    match specs.find? (·.letter == letter) with
    | none => .error .usage
    | some spec =>
      if !spec.takesValue then takeLetters specs (a.note letter "") rest
      else if rest.isEmpty then .ok { a with pending := some letter }
      -- The rest of the word is the value.
      else .ok (a.note letter (String.ofList rest))

def take (specs : List OptionSpec) (a : Arguments) (word : String) : Except Refusal Arguments :=
  match a.pending with
  | some letter => .ok (a.note letter word)
  | none =>
    if a.verbatim then .ok { a with positional := a.positional ++ [word] }
    else
      match word.toList with
      | ['-', '-'] => .ok { a with verbatim := true }
      | '-' :: '-' :: long =>
        let name := long.takeWhile (· != '=')
        let value := long.drop (name.length + 1)
        takeLong specs a (String.ofList name)
          (if name.length < long.length then some (String.ofList value) else none)
      | '-' :: letters@(_ :: _) => takeLetters specs a letters
      | _ => .ok { a with positional := a.positional ++ [word] }

def read (specs : List OptionSpec) (words : List String) : Except Refusal Arguments := do
  let a ← words.foldlM (take specs) {}
  if a.pending.isSome then throw .misuse
  return a

def has (a : Arguments) (letter : Char) : Bool :=
  a.options.any (·.1 == letter)

/-- The value of an option, the last one if there are several. -/
def value? (a : Arguments) (letter : Char) : Option String :=
  (a.options.reverse.find? (·.1 == letter)).map (·.2)

end Arguments

end ChipEight.Host
