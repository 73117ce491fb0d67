/-!
# Dates and times

Calendar dates, times of day and their combinations, with two texts each: the notation of ISO 8601,
and the call that would make the value, which messages show.
-/

namespace ChipEight.Toml

def padded (width n : Nat) : String :=
  let digits := Nat.toDigits 10 n
  String.ofList (List.replicate (width - digits.length) '0' ++ digits)

structure Date where
  year : Nat
  month : Nat
  day : Nat
  deriving DecidableEq, Repr

/-- A time of day, to the millionth of a second. -/
structure Time where
  hour : Nat
  minute : Nat
  second : Nat
  micro : Nat
  deriving DecidableEq, Repr

/-- A time on a day, with the minutes by which its clock is ahead of universal time if that is
    known. -/
structure DateTime where
  date : Date
  time : Time
  offset : Option Int
  deriving DecidableEq, Repr

namespace Date

def isLeap (year : Nat) : Bool :=
  year % 4 == 0 && (year % 100 != 0 || year % 400 == 0)

def daysIn (year month : Nat) : Nat :=
  if month = 2 then (if isLeap year then 29 else 28)
  else if month = 4 ∨ month = 6 ∨ month = 9 ∨ month = 11 then 30
  else 31

/-- Whether the calendar has this day; it begins with year 1. -/
def isValid (d : Date) : Bool :=
  1 ≤ d.year && 1 ≤ d.month && d.month ≤ 12 && 1 ≤ d.day && d.day ≤ daysIn d.year d.month

def iso (d : Date) : String :=
  s!"{padded 4 d.year}-{padded 2 d.month}-{padded 2 d.day}"

def arguments (d : Date) : List Nat := [d.year, d.month, d.day]

end Date

namespace Time

/-- The notation of ISO 8601, with a fraction only if there is one. -/
def iso (t : Time) : String :=
  let fraction := if t.micro = 0 then "" else "." ++ padded 6 t.micro
  s!"{padded 2 t.hour}:{padded 2 t.minute}:{padded 2 t.second}" ++ fraction

/-- The numbers that make the time; zeros at the end are left out, down to the minutes. -/
def arguments (t : Time) : List Nat :=
  if t.micro ≠ 0 then [t.hour, t.minute, t.second, t.micro]
  else if t.second ≠ 0 then [t.hour, t.minute, t.second]
  else [t.hour, t.minute]

end Time

namespace DateTime

/-- The offset as it stands behind a time. -/
def offsetIso (minutes : Int) : String :=
  let n := minutes.natAbs
  (if minutes < 0 then "-" else "+") ++ padded 2 (n / 60) ++ ":" ++ padded 2 (n % 60)

/-- The notation of ISO 8601, with a separator between day and time. -/
def iso (separator : String) (m : DateTime) : String :=
  m.date.iso ++ separator ++ m.time.iso ++ (m.offset.map offsetIso).getD ""

/-- The call that makes an offset: days and seconds, the seconds never negative. -/
def offsetCall (minutes : Int) : String :=
  if minutes = 0 then "datetime.timezone.utc"
  else
    let days := if minutes < 0 then "days=-1, " else ""
    s!"datetime.timezone(datetime.timedelta({days}seconds={minutes * 60 % 86400}))"

end DateTime

/-- A call with numbers as its arguments, and what else there is. -/
def call (name : String) (arguments : List Nat) (others : List String := []) : String :=
  name ++ "(" ++ ", ".intercalate (arguments.map toString ++ others) ++ ")"

end ChipEight.Toml
