import SchemaEvolution.Sqlite.Moment
import SchemaEvolution.Sqlite.Numeral

/-!
# Reading moments

A moment is written as a day, a time of day, both with a `T` or spaces between them, the word for
the present, or a number. Modifiers change it: they take it for a count of days or seconds, move it
by some time, or bring it to the start of something.
-/

namespace SchemaEvolution.Sqlite.Moment

/-- Why a text is no moment or no modifier: nothing is known of it, or it depends on when or where
it is asked. -/
inductive Refusal where
  | unknown
  | unsteady
  deriving DecidableEq, Repr

/-- Whether a text is a word in any case. -/
def isWord (word : String) (text : List Char) : Bool := text.map Char.toLower == word.toList

/-- The present, which is always the same. -/
def present : Moment := { Moment.ofTime (Day.mk 2026 1 1).start with zone := some .universal }

/-! ## Days and times of day -/

/-- Takes `count` digits off a text, of a number between two others. -/
def takeNumber (count least most : Nat) (text : List Char) : Option (Nat × List Char) :=
  let digits := text.take count
  let n := Number.digitsValue digits
  if digits.length = count && digits.all Char.isDigit && least ≤ n && n ≤ most then
    some (n, text.drop count)
  else none

/-- Takes a character off a text. -/
def takeChar (c : Char) : List Char → Option (List Char)
  | d :: rest => if d = c then some rest else none
  | [] => none

/-- Takes an hour and a minute off a text. -/
def takeHourMinute (mostHours : Nat) (text : List Char) : Option (Nat × Nat × List Char) := do
  let (hour, text) ← takeNumber 2 0 mostHours text
  let (minute, text) ← takeNumber 2 0 59 (← takeChar ':' text)
  some (hour, minute, text)

/-- The part of a second that some digits stand for. -/
def fraction (digits : List Char) : Binary64 :=
  let ten := Binary64.ofInt 10
  let (n, scale) := digits.foldl
    (fun (n, scale) c => ((n.mul ten).add (Binary64.ofInt (c.toNat - 48)), Binary64.mul scale ten))
    (Binary64.zero false, Binary64.ofInt 1)
  n.div scale

/-- Takes the seconds off a text, if there are some. -/
def takeSeconds (text : List Char) : Option (Binary64 × List Char) :=
  match text with
  | ':' :: rest => do
    let (n, rest) ← takeNumber 2 0 59 rest
    match rest with
    | '.' :: after =>
      let digits := after.takeWhile Char.isDigit
      if digits.isEmpty then some (Binary64.ofInt n, rest)
      else some ((Binary64.ofInt n).add (fraction digits), after.dropWhile Char.isDigit)
    | rest => some (Binary64.ofInt n, rest)
  | text => some (Binary64.zero false, text)

/-- How many minutes a time is ahead, as it is written at the end of a text, and the zone if one is
written. -/
def readZone (text : List Char) : Option (Int × Option Zone) :=
  let ahead (sign : Int) (rest : List Char) : Option (Int × Option Zone) := do
    let (hours, minutes, rest) ← takeHourMinute 14 rest
    if (trimStart rest).isEmpty then some (sign * (minutes + hours * 60 : Nat), none) else none
  match trimStart text with
  | [] => some (0, none)
  | '-' :: rest => ahead (-1) rest
  | '+' :: rest => ahead 1 rest
  | c :: rest =>
    if (c = 'Z' || c = 'z') && (trimStart rest).isEmpty then some (0, some .universal) else none

/-- A time of day. -/
def readClock (text : List Char) : Option Moment := do
  let (hour, minute, text) ← takeHourMinute 24 text
  let (second, text) ← takeSeconds text
  let (ahead, zone) ← readZone text
  some { clock := some ⟨hour, minute, second⟩, ahead, zone }

/-- A day, perhaps with a time of day after it. -/
def readDay (text : List Char) : Option Moment := do
  let (negative, text) : Bool × List Char := match text with
    | '-' :: rest => (true, rest)
    | text => (false, text)
  let (year, text) ← takeNumber 4 0 9999 text
  let (month, text) ← takeNumber 2 1 12 (← takeChar '-' text)
  let (day, text) ← takeNumber 2 1 31 (← takeChar '-' text)
  let text := text.dropWhile fun c => isSpace c || c = 'T'
  let m ← if text.isEmpty then some {} else readClock text
  let day : Day := ⟨if negative then -(year : Int) else year, month, day⟩
  let m := { m with day := some day, beyond := day.beyond }
  some (if m.ahead = 0 then m else m.timed)

/-- The number that a text is. -/
def wholeNumber? (text : List Char) : Option Binary64 :=
  match realOfText text with
  | (x, .integer) => some x
  | (x, .decimal) => some x
  | _ => none

/-- A moment; the present is only one where it may be asked for. -/
def read (steady : Bool) (text : List Char) : Except Refusal Moment :=
  let now (m : Moment) : Except Refusal Moment := if steady then .error .unsteady else .ok m
  match (readDay text).orElse fun _ => readClock text with
  | some m => .ok m
  | none =>
    if isWord "now" text then now present
    else
      match wholeNumber? text with
      | some x => .ok (ofNumber x)
      | none =>
        if isWord "subsec" text || isWord "subsecond" text then now { present with finely := true }
        else .error .unknown

/-! ## Modifiers -/

/-- Whether some milliseconds are in the years for which the rules of local time are known. -/
def isNear (time : Int) : Bool := 210866760000000 ≤ time && time ≤ 213014145600000

/-- A moment whose day and time of day are those here, where the time is that of the zero meridian.
Other years follow the rules of a near year of the same kind. -/
def toHere (m : Moment) : Moment :=
  let m := m.timed
  let time := m.time.getD 0
  let full := m.full
  let day := full.day.getD Day.usual
  let year := if isNear time then day.year else 2000 + day.year.tmod 4
  let near :=
    if isNear time then time
    else { full with day := some { day with year }, time := none }.millis
  let nearDay := Day.ofTime near
  let clock := Clock.ofTime (near / 1000 * 1000)
  let second := clock.second.add
    ((Binary64.ofInt (time.tmod 1000)).mul (Binary64.ofDecimal false 1 (-3)))
  { m with
    day := some { nearDay with year := nearDay.year + (day.year - year) }
    clock := some { clock with second }
    time := none
    number := none
    ahead := 0
    failed := false }

/-- The milliseconds whose local time is given, approached from a guess in some more steps. -/
def ofLocal (time : Int) : Nat → Int → Int
  | 0, guess => guess
  | steps + 1, guess =>
    let error := (Moment.ofTime guess).toHere.millis - time
    if error = 0 then guess else ofLocal time steps (guess - error)

/-- A moment as a local one, and a local moment as a universal one. -/
def toZone (zone : Zone) (m : Moment) : Moment :=
  if m.zone = some zone then m
  else
    match zone with
    | .here => { m.toHere with zone := some .here }
    | .universal => { Moment.ofTime (ofLocal m.millis 3 m.millis) with zone := some .universal }

/-- The start of the month, the year or the day of a moment. -/
def startOf (what : List Char) (m : Moment) : Option Moment :=
  if m.time.isNone && m.day.isNone && m.clock.isNone then none
  else
    let m := m.dated
    let day := m.day.getD Day.usual
    let at' (day : Day) : Moment :=
      { m with
        day := some day, clock := some Clock.midnight, number := none, ahead := 0, time := none }
    if isWord "month" what then some (at' { day with day := 1 })
    else if isWord "year" what then some (at' { day with month := 1, day := 1 })
    else if isWord "day" what then some (at' day)
    else none

/-- The next moment on a day of the week, which may be the moment itself. -/
def onWeekday (n : Int) (m : Moment) : Moment :=
  let m := { m.full with ahead := 0, time := none }.timed
  let today := m.afterSunday
  m.later ((n - if n < today then today - 7 else today) * dayLength)

/-- The units of time, each with the bound of how many may be added and its seconds. -/
def units : List (String × Binary64 × Int) :=
  let bound (digits : Nat) (e : Int) : Binary64 := Binary64.ofDecimal false digits e
  [("second", bound 46427 10, 1), ("minute", bound 77379 8, 60), ("hour", bound 12897 7, 3600),
   ("day", bound 5373485 0, 86400), ("month", bound 176546 0, 2592000),
   ("year", bound 14713 0, 31536000)]

/-- A moment some units of time later; whole months and years keep the day of the month. -/
def addUnits (unit : List Char) (x : Binary64) (m : Moment) : Option Moment := do
  let unit := unit.map Char.toLower
  if 10 < unit.length || unit.length < 3 then none
  let unit := if unit.getLast? = some 's' then unit.dropLast else unit
  let (name, bound, seconds) ← units.find? fun u => u.1.toList == unit
  if x.compareWith bound != .lt || x.compareWith bound.neg != .gt then none
  let m := { m.timed with beyond := 0 }
  let whole := x.truncate
  let months := if name == "month" then whole else if name == "year" then 12 * whole else 0
  let isMonths := name == "month" || name == "year"
  let m := if isMonths then
      let m := m.full
      m.onDay ((m.day.getD Day.usual).addMonths months)
    else m
  let left := if isMonths then x.sub (Binary64.ofInt whole) else x
  let half := Binary64.ofRatio (x.compareWith (Binary64.zero false) == .lt) 1 2
  let move := ((left.mul (Binary64.ofInt 1000)).mul (Binary64.ofInt seconds)).add half
  some (m.later move.truncate)

/-- A moment a time of day later or earlier. -/
def addClock (negative : Bool) (text : List Char) (m : Moment) : Option Moment := do
  let time := ((← readClock text).millis - dayLength / 2) % dayLength
  some (m.later (if negative then -time else time))

/-- A moment some years, months and days later or earlier, as they are written after a sign. -/
def addDate (negative : Bool) (yearDigits : Nat) (text : List Char) (m : Moment) :
    Option Moment := do
  let (years, text) ← takeNumber yearDigits 0 14712 text
  let (months, text) ← takeNumber 2 0 11 (← takeChar '-' text)
  let (days, text) ← takeNumber 2 0 30 (← takeChar '-' text)
  let sign : Int := if negative then -1 else 1
  let m := m.full
  let m := m.onDay ((m.day.getD Day.usual).addMonths (sign * (12 * years + months : Nat)))
  let m := m.timed
  let m := { m with
    day := none, clock := none, time := m.time.map (· + sign * (days : Int) * dayLength) }
  match text with
  | [] => some m
  | c :: rest =>
    if isSpace c && (takeHourMinute 24 rest).isSome then addClock negative rest m else none

/-- Where the number at the start of a modifier ends: at a colon, at a space, or at the end of a
year. -/
def numberEnd (text : List Char) : Nat :=
  let isEnd (n : Nat) : Bool :=
    match text[n]? with
    | some c =>
      c = ':' || isSpace c ||
        (c = '-' && ((n = 5 && (takeNumber 4 0 14712 (text.drop 1)).isSome) ||
          (n = 6 && (takeNumber 5 0 14712 (text.drop 1)).isSome)))
    | none => true
  ((List.range' 1 text.length).find? isEnd).getD text.length

/-- A moment moved by what a modifier that starts like a number says. -/
def moved (text : List Char) (m : Moment) : Option Moment := do
  let n := numberEnd text
  let x ← wholeNumber? (text.take n)
  let negative := text.head? = some '-'
  let isSigned := negative || text.head? = some '+'
  let after := text.drop n
  if after.head? = some '-' then
    if isSigned then addDate negative (n - 1) (text.drop 1) m else none
  else if after.head? = some ':' then
    addClock negative (if text.head?.any Char.isDigit then text else text.drop 1) m
  else addUnits (trimStart after) x m

/-- A number taken for what it is most likely to be: days, or else seconds. -/
def guessed (m : Moment) : Moment :=
  match m.number with
  | some x =>
    if m.time.isSome then { m with number := none }
    else if x.compareWith (Binary64.ofInt (-210866760000)) != .lt &&
        x.compareWith (Binary64.ofInt 253402300799) != .gt then
      m.ofSeconds (secondsTime x)
    else m
  | none => m

/-- A number taken for seconds. -/
def seconds? (m : Moment) : Option Moment := do
  let time := secondsTime (← m.number)
  if time.compareWith (Binary64.zero false) != .lt &&
      time.compareWith (Binary64.ofInt 464269060800000) == .lt then
    some (m.ofSeconds time)
  else none

/-- A moment as a modifier changes it; some modifiers may only be the first one. -/
def modify (steady isFirst : Bool) (text : List Char) (m : Moment) : Except Refusal Moment :=
  let ofOption (m? : Option Moment) : Except Refusal Moment :=
    match m? with
    | some m => .ok m
    | none => .error .unknown
  let ifFirst (m? : Option Moment) : Except Refusal Moment :=
    ofOption (if isFirst then m? else none)
  let here (zone : Zone) : Except Refusal Moment :=
    if steady then .error .unsteady else .ok (m.toZone zone)
  if isWord "auto" text then ifFirst (some m.guessed)
  else if isWord "ceiling" text then .ok { m.timed.bare with beyond := 0 }
  else if isWord "floor" text then
    let m := m.timed
    .ok (m.later (-m.beyond * dayLength))
  else if isWord "julianday" text then
    ifFirst (if m.time.isSome && m.number.isSome then some { m with number := none } else none)
  else if isWord "localtime" text then here .here
  else if isWord "unixepoch" text then ifFirst m.seconds?
  else if isWord "utc" text then here .universal
  else if isWord "subsec" text || isWord "subsecond" text then .ok { m with finely := true }
  else if isWord "weekday " (text.take 8) then
    match wholeNumber? (text.drop 8) with
    | some x =>
      match x.toInt? with
      | some n => ofOption (if 0 ≤ n && n < 7 then some (m.onWeekday n) else none)
      | none => .error .unknown
    | none => .error .unknown
  else if isWord "start of " (text.take 9) then ofOption (m.startOf (text.drop 9))
  else
    match text with
    | c :: _ => if c = '+' || c = '-' || c.isDigit then ofOption (m.moved text) else .error .unknown
    | [] => .error .unknown

/-- A moment that there is. A day that its month does not have is brought into the calendar if
nothing has changed it. -/
def settled (isChanged : Bool) (m : Moment) : Except Refusal Moment :=
  let m := m.timed
  if m.failed || !Moment.isWithin (m.time.getD 0) then .error .unknown
  else if !isChanged && (m.day.map (·.day)).any (28 < ·) then .ok { m with day := none }
  else .ok m

end SchemaEvolution.Sqlite.Moment
