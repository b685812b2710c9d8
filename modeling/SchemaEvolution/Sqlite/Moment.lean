import SchemaEvolution.Number.Arithmetic

/-!
# Moments

A moment is a day and a time of day, or a number of milliseconds, from which the day and the time
follow. The milliseconds count from noon of the first Julian day; days follow the Gregorian
calendar. A day may be written that its month does not have: it stays as it is written until the
milliseconds are taken for it.
-/

namespace SchemaEvolution.Sqlite

/-- A day as it is written. -/
structure Day where
  year : Int
  month : Int
  day : Int
  deriving DecidableEq, Repr

/-- A time of day. -/
structure Clock where
  hour : Int
  minute : Int
  second : Binary64
  deriving DecidableEq, Repr

/-- What the time of a moment is known to be. -/
inductive Zone where
  | universal
  | here
  deriving DecidableEq, Repr

/-- A moment, as far as its parts are known: milliseconds, a day, a time of day, a number that may
yet be taken for days or for seconds, the minutes that the time is ahead, how many days the day is
beyond the end of its month, whether parts of a second are asked for, and whether there is no such
moment. -/
structure Moment where
  time : Option Int := none
  day : Option Day := none
  clock : Option Clock := none
  number : Option Binary64 := none
  ahead : Int := 0
  beyond : Int := 0
  finely : Bool := false
  zone : Option Zone := none
  failed : Bool := false
  deriving DecidableEq, Repr

/-- The milliseconds of a day. -/
def dayLength : Int := 86400000

namespace Day

/-- The day of a moment of which no day is known. -/
def usual : Day := ⟨2000, 1, 1⟩

/-- The milliseconds at which a day starts; days go on where a month ends. Before the year zero a
century counts from its other end, so its last months may be a day late. -/
def start (d : Day) : Int :=
  let (year, month) := if d.month ≤ 2 then (d.year - 1, d.month + 12) else (d.year, d.month)
  let century := year.tdiv 100
  let leap := 2 - century + century.tdiv 4
  let ofYears := 36525 * (year + 4716) / 100
  let ofMonths := 306001 * (month + 1) / 10000
  (2 * (ofYears + ofMonths + d.day + leap) - 3049) * (dayLength / 2)

/-- The day at some milliseconds, which are not before the first Julian day. -/
def ofTime (time : Int) : Day :=
  let n := (time + dayLength / 2) / dayLength
  let century := (4 * n + 128179) / 146097 - 52
  let a := n + 1 + century - (century + 100) / 4 + 25
  let b := a + 1524
  let c := (100 * b - 12210) / 36525
  let d := 36525 * (c % 32768) / 100
  let e := (b - d) * 10000 / 306001
  let month := if e < 14 then e - 1 else e - 13
  { year := if 2 < month then c - 4716 else c - 4715
    month
    day := b - d - 306001 * e / 10000 }

/-- How many days a day is beyond the end of its month. -/
def beyond (d : Day) : Int :=
  if d.day ≤ 28 then 0
  else if [1, 3, 5, 7, 8, 10, 12].contains d.month then 0
  else if d.month ≠ 2 then if d.day = 31 then 1 else 0
  else if d.year % 4 ≠ 0 || (d.year % 100 = 0 && d.year % 400 ≠ 0) then d.day - 28
  else d.day - 29

/-- A day some months later, in a month that there is. -/
def addMonths (d : Day) (n : Int) : Day :=
  let month := d.month + n
  { d with year := d.year + (month - 1) / 12, month := (month - 1) % 12 + 1 }

example : (Day.mk 2026 1 1).start = 212633985600000 := by decide +kernel
example : Day.ofTime 212633985600000 = ⟨2026, 1, 1⟩ := by decide +kernel
example : Day.ofTime (Day.mk 2023 2 31).start = ⟨2023, 3, 3⟩ := by decide +kernel

end Day

namespace Clock

/-- The midnight at which a day starts. -/
def midnight : Clock := ⟨0, 0, Binary64.zero false⟩

/-- A time of day in milliseconds. -/
def time (c : Clock) : Int :=
  c.hour * 3600000 + c.minute * 60000 +
    ((c.second.mul (Binary64.ofInt 1000)).add (Binary64.ofRatio false 1 2)).truncate

/-- The time of day at some milliseconds. -/
def ofTime (time : Int) : Clock :=
  let t := (time + dayLength / 2).tmod dayLength
  let ms := t.tmod 60000
  ⟨(t.tdiv 60000).tdiv 60, (t.tdiv 60000).tmod 60, Binary64.ofRatio (ms < 0) ms.natAbs 1000⟩

end Clock

namespace Moment

/-- No moment. -/
def nowhere : Moment := { failed := true }

/-- Whether milliseconds are of a moment that there is. -/
def isWithin (time : Int) : Bool := 0 ≤ time && time ≤ 464269060799999

/-- A moment of some milliseconds. -/
def ofTime (time : Int) : Moment := { time := some time }

/-- A moment with its milliseconds. A number that was not taken for days has none. -/
def timed (m : Moment) : Moment :=
  if m.time.isSome then m
  else
    let day := m.day.getD Day.usual
    if day.year < -4713 || 9999 < day.year || m.number.isSome then nowhere
    else
      match m.clock with
      | none => { m with time := some day.start }
      | some c =>
        let time := day.start + c.time
        if m.ahead = 0 then { m with time := some time }
        else
          { m with
            time := some (time - m.ahead * 60000)
            day := none
            clock := none
            ahead := 0
            zone := some .universal }

/-- The milliseconds of a moment. -/
def millis (m : Moment) : Int := m.timed.time.getD 0

/-- A moment with its day. -/
def dated (m : Moment) : Moment :=
  if m.day.isSome then m
  else
    match m.time with
    | none => { m with day := some Day.usual }
    | some time =>
      if Moment.isWithin time then { m with day := some (Day.ofTime time) } else nowhere

/-- A moment with its time of day. -/
def clocked (m : Moment) : Moment :=
  if m.clock.isSome then m
  else
    let m := m.timed
    { m with clock := some (Clock.ofTime (m.time.getD 0)), number := none }

/-- A moment with its day and its time of day. -/
def full (m : Moment) : Moment := m.dated.clocked

/-- A moment of which nothing but the milliseconds is known. -/
def bare (m : Moment) : Moment := { m with day := none, clock := none, ahead := 0 }

/-- A moment some milliseconds later, of which nothing but the milliseconds is known. -/
def later (m : Moment) (n : Int) : Moment :=
  let m := m.timed
  { m with time := m.time.map (· + n) }.bare

/-- A moment on another day; one of which no day is known stays so. -/
def onDay (m : Moment) (day : Day) : Moment :=
  { m with day := m.day.map fun _ => day, time := none, beyond := day.beyond }

/-- The moment of a number, which counts days if it can. -/
def ofNumber (x : Binary64) : Moment :=
  let isDays := x.compareWith (Binary64.zero false) != .lt &&
    x.compareWith (Binary64.ofRatio false 10746969 2) == .lt
  { number := some x
    time :=
      if isDays then
        some ((x.mul (Binary64.ofInt dayLength)).add (Binary64.ofRatio false 1 2)).truncate
      else none }

/-- The milliseconds of the first second of the usual count of seconds. -/
def epoch : Int := 210866760000000

/-- The milliseconds of a count of seconds. -/
def secondsTime (x : Binary64) : Binary64 :=
  (x.mul (Binary64.ofInt 1000)).add (Binary64.ofInt epoch)

/-- The moment of a count of seconds. -/
def ofSeconds (m : Moment) (time : Binary64) : Moment :=
  { m.bare with
    time := some (time.add (Binary64.ofRatio false 1 2)).truncate
    number := none }

/-- How many days after Monday a moment is. -/
def afterMonday (m : Moment) : Int := ((m.millis + dayLength / 2) / dayLength) % 7

/-- How many days after Sunday a moment is. -/
def afterSunday (m : Moment) : Int := ((m.millis + dayLength * 3 / 2) / dayLength) % 7

/-- How many days after the first day of its year a moment is. -/
def afterNewYear (m : Moment) : Int :=
  let first : Day := ⟨(m.day.getD Day.usual).year, 1, 1⟩
  let start := { m with day := some first, time := none }.millis
  (m.millis - start + dayLength / 2) / dayLength

/-- The Thursday in the week of a moment. -/
def thursday (m : Moment) : Moment :=
  { m with time := some (m.millis + (3 - m.afterMonday) * dayLength), day := none }.dated

end Moment

end SchemaEvolution.Sqlite
