import SchemaEvolution.Number.Integer

/-!
# Version numbers

A migration is numbered by the digits that lead its name, after any underscores. A number can be
taken from the time: the decimal digits of year, month, day, hour, minute and second, in this order,
so later times have greater numbers.
-/

namespace SchemaEvolution

/-- The version number that leads a migration name. -/
def parseVersion (name : String) : Option Int64 :=
  Number.readInt64 ((name.toList.dropWhile (· == '_')).takeWhile Char.isDigit)

/-- A moment in the proleptic Gregorian calendar, in universal time, to the second. -/
structure Moment where
  year : Int
  month : Nat
  day : Nat
  hour : Nat
  minute : Nat
  second : Nat
  deriving DecidableEq, Repr

namespace Moment

/-- Whether a year has a 29th of February. -/
def isLeapYear (year : Int) : Bool := year % 4 = 0 && (year % 100 ≠ 0 || year % 400 = 0)

/-- How many days a month has. -/
def daysInMonth (year : Int) (month : Nat) : Nat :=
  if month = 2 then if isLeapYear year then 29 else 28
  else if month = 4 || month = 6 || month = 9 || month = 11 then 30
  else 31

/-- Whether the fields name a moment between the years -262143 and 262142. -/
def isValid (m : Moment) : Bool :=
  -262143 ≤ m.year && m.year ≤ 262142 && 1 ≤ m.month && m.month ≤ 12 && 1 ≤ m.day &&
    m.day ≤ daysInMonth m.year m.month && m.hour < 24 && m.minute < 60 && m.second < 60

/-- Year, month and day of a day counted from the first of January 1970. Years are taken to start in
March, so that the leap day ends them, and are counted in eras of 400. -/
def dateOfDays (days : Int) : Int × Nat × Nat :=
  let shifted := days + 719468
  let era := Int.fdiv shifted 146097
  let dayOfEra := (Int.fmod shifted 146097).toNat
  let yearOfEra := (dayOfEra - dayOfEra / 1460 + dayOfEra / 36524 - dayOfEra / 146096) / 365
  let dayOfYear := dayOfEra - (365 * yearOfEra + yearOfEra / 4 - yearOfEra / 100)
  let marchMonth := (5 * dayOfYear + 2) / 153
  let day := dayOfYear - (153 * marchMonth + 2) / 5 + 1
  let month := if marchMonth < 10 then marchMonth + 3 else marchMonth - 9
  let year : Int := era * 400 + yearOfEra + (if month ≤ 2 then 1 else 0)
  (year, month, day)

/-- The moment a number of seconds after the start of 1970. -/
def ofUnixSeconds (seconds : Int) : Moment :=
  let (year, month, day) := dateOfDays (Int.fdiv seconds 86400)
  let time := (Int.fmod seconds 86400).toNat
  ⟨year, month, day, time / 3600, time / 60 % 60, time % 60⟩

/-- The moment of a time stamp, if it is in range. A leap second is the last second of its minute
with more than a second's worth of nanoseconds. -/
def ofTimestamp? (seconds : Int) (nanoseconds : Nat) : Option Moment :=
  let moment := ofUnixSeconds seconds
  if nanoseconds < 1000000000 || (nanoseconds < 2000000000 && moment.second = 59) then
    if moment.isValid then some moment else none
  else none

/-- The version number of a moment. -/
def version (m : Moment) : Int :=
  m.year * 10000000000 + m.month * 100000000 + m.day * 1000000 + m.hour * 10000 + m.minute * 100 +
    m.second

end Moment

end SchemaEvolution
