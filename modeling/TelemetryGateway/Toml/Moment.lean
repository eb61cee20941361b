import TelemetryGateway.Document
import TelemetryGateway.Toml.Layout

/-!
# Dates and times of a TOML text

A moment is a date, a time of day, or both, and then perhaps with its distance from universal time.
Nothing in a configuration is a moment; one that stands where a table may stand is read as a table
with one field, which holds its text.
-/

namespace TelemetryGateway.Toml

structure Date where
  year : Nat
  month : Nat
  day : Nat
deriving DecidableEq

structure Time where
  hour : Nat
  minute : Nat
  second : Nat
  nanosecond : Nat
deriving DecidableEq

/-- The distance from universal time. -/
inductive Offset where
  | none
  | universal
  | minutes (distance : Int)
deriving DecidableEq

/-- A date, a time, or both. -/
inductive Moment where
  | date (date : Date)
  | time (time : Time)
  | dateTime (date : Date) (time : Time) (offset : Offset)
deriving DecidableEq

/-! ## Reading -/

def readFixed (width : Nat) (cs : List Char) : Option (Nat × List Char) :=
  let digits := cs.take width
  if digits.length = width ∧ digits.all Char.isDigit then
    some (Nat.ofDigitChars 10 digits 0, cs.drop width)
  else none

/-- A number of two digits between two bounds. -/
def readTwoDigits (low high : Nat) (cs : List Char) : Option (Nat × List Char) := do
  let (n, rest) ← readFixed 2 cs
  if low ≤ n ∧ n ≤ high then return (n, rest) else none

/-- The text after a character that must stand in front. -/
def expect (c : Char) : List Char → Option (List Char)
  | d :: rest => if d = c then some rest else none
  | [] => none

def isLeapYear (year : Nat) : Bool :=
  year % 4 = 0 && (year % 100 ≠ 0 || year % 400 = 0)

def daysOf (year month : Nat) : Nat :=
  if month = 2 then if isLeapYear year then 29 else 28
  else if month = 4 ∨ month = 6 ∨ month = 9 ∨ month = 11 then 30
  else 31

/-- A date: `1979-05-27`. -/
def readDate (cs : List Char) : Option (Date × List Char) := do
  let (year, cs) ← readFixed 4 cs
  let cs ← expect '-' cs
  let (month, cs) ← readTwoDigits 1 12 cs
  let cs ← expect '-' cs
  let (day, cs) ← readTwoDigits 1 (daysOf year month) cs
  return (⟨year, month, day⟩, cs)

/-- The nanoseconds of a fraction of a second, of which nine digits count. -/
def nanosecondsOf (digits : List Char) : Nat :=
  let counted := digits.take 9
  Nat.ofDigitChars 10 counted 0 * Nat.pow 10 (9 - counted.length)

/-- The fraction of a second, if one follows. -/
def readNanoseconds (cs : List Char) : Nat × List Char :=
  match cs with
  | '.' :: rest =>
      let digits := rest.takeWhile Char.isDigit
      if digits.isEmpty then (0, cs) else (nanosecondsOf digits, rest.dropWhile Char.isDigit)
  | _ => (0, cs)

/-- A time of day: `07:32:00`, with or without a fraction. -/
def readTime (cs : List Char) : Option (Time × List Char) := do
  let (hour, cs) ← readTwoDigits 0 23 cs
  let cs ← expect ':' cs
  let (minute, cs) ← readTwoDigits 0 59 cs
  let cs ← expect ':' cs
  let (second, cs) ← readTwoDigits 0 60 cs
  let (nanosecond, cs) := readNanoseconds cs
  return (⟨hour, minute, second, nanosecond⟩, cs)

/-- Hours and minutes, as minutes. -/
def readHoursAndMinutes (cs : List Char) : Option (Nat × List Char) := do
  let (hours, cs) ← readTwoDigits 0 23 cs
  let cs ← expect ':' cs
  let (minutes, cs) ← readTwoDigits 0 59 cs
  return (hours * 60 + minutes, cs)

/-- The distance from universal time, if it follows. -/
def readOffset (cs : List Char) : Offset × List Char :=
  match cs with
  | 'Z' :: rest => (.universal, rest)
  | 'z' :: rest => (.universal, rest)
  | '+' :: rest =>
      (readHoursAndMinutes rest).elim (.none, cs) fun (distance, rest) => (.minutes distance, rest)
  | '-' :: rest =>
      (readHoursAndMinutes rest).elim (.none, cs) fun (distance, rest) =>
        (.minutes (-(distance : Int)), rest)
  | _ => (.none, cs)

/-- The time after a date, if one follows after a space or the letter T. -/
def readTimeAfterDate : Scanner Time
  | c :: rest => if c = 'T' ∨ c = 't' ∨ c = ' ' then readTime rest else none
  | [] => none

def readMoment (cs : List Char) : Option (Moment × List Char) :=
  match readDate cs with
  | some (date, rest) =>
      match readTimeAfterDate rest with
      | some (time, rest) =>
          let (offset, rest) := readOffset rest
          some (.dateTime date time offset, rest)
      | none => some (.date date, rest)
  | none => (readTime cs).map fun (time, rest) => (.time time, rest)

/-! ## Writing -/

def padded (width n : Nat) : List Char :=
  let digits := Numeral.digits n
  List.replicate (width - digits.length) '0' ++ digits

def Date.text (d : Date) : List Char :=
  padded 4 d.year ++ '-' :: padded 2 d.month ++ '-' :: padded 2 d.day

/-- The fraction of a second without zeros at its end. -/
def fractionText (nanosecond : Nat) : List Char :=
  if nanosecond = 0 then []
  else '.' :: ((padded 9 nanosecond).reverse.dropWhile (· = '0')).reverse

def Time.text (t : Time) : List Char :=
  padded 2 t.hour ++ ':' :: padded 2 t.minute ++ ':' :: padded 2 t.second ++
    fractionText t.nanosecond

/-- The text of a distance from universal time; a distance of nothing has a plus sign. -/
def Offset.text : Offset → List Char
  | .none => []
  | .universal => ['Z']
  | .minutes distance =>
      (if distance < 0 then '-' else '+') :: padded 2 (distance.natAbs / 60) ++
        ':' :: padded 2 (distance.natAbs % 60)

namespace Moment

def text : Moment → List Char
  | date d => d.text
  | time t => t.text
  | dateTime d t offset => d.text ++ 'T' :: t.text ++ offset.text

/-- The name of the one field of a moment that is read as a table. -/
def fieldName : String := "$__toml_private_datetime"

def toDocument (m : Moment) : Document := .record [(fieldName, .text (String.ofList m.text))]

end Moment

end TelemetryGateway.Toml
