import SchemaEvolution.Sqlite.Function.Format
import SchemaEvolution.Sqlite.Moment.Reader

/-!
# Functions of moments

A moment is given by a value and by modifiers of it; without a value it is the present. The
functions give its day, its time of day, its count of days or seconds, or a text made of its parts.
-/

namespace SchemaEvolution.Sqlite.Function

/-- The moment that a value is. -/
def momentOf (steady : Bool) (v : Value) : Except Moment.Refusal Moment :=
  match v with
  | .null => .error .unknown
  | .int n => .ok (Moment.ofNumber (Binary64.ofInt n.toInt))
  | .float x => .ok (Moment.ofNumber x)
  | v => Moment.read steady (chars v)

/-- A moment after some modifiers. -/
def modified (steady : Bool) (isFirst : Bool) (m : Moment) :
    List Value → Except Moment.Refusal Moment
  | [] => .ok m
  | v :: rest =>
    if v.isNull then .error .unknown
    else
      match Moment.modify steady isFirst (chars v) m with
      | .ok m => modified steady false m rest
      | .error refusal => .error refusal

/-- The moment that a value and modifiers are. -/
def momentOfAll (steady : Bool) (values : List Value) : Except Moment.Refusal Moment := do
  match values with
  | [] => if steady then .error .unsteady else .ok Moment.present
  | v :: modifiers =>
    let m ← momentOf steady v
    (← modified steady true m modifiers).settled (!modifiers.isEmpty)

/-- A function of a moment, or of several, which gives null where there is none. What depends on
when or where it is asked is refused where the same must come out each time. -/
def ofMoments (name : String) (accepts : Nat → Bool)
    (f : Bool → List Value → Except Moment.Refusal Value) : Function where
  name
  accepts
  run s _ arguments :=
    match f s.steadyIn.isSome (arguments.map (·.value)) with
    | .ok v => return { value := v }
    | .error .unknown => return Datum.null
    | .error .unsteady =>
      Evaluation.fail ("non-deterministic use of " ++ name ++ "() in " ++ s.steadyIn.getD "")

/-- A function of a moment and modifiers. -/
def ofMoment (name : String) (f : Moment → Value) : Function :=
  ofMoments name (fun _ => true) fun steady values => (momentOfAll steady values).map f

/-! ## Parts of a moment as texts -/

/-- An integer with at least some digits; a sign counts as one. -/
def padZeros (width : Nat) (n : Int) : List Char :=
  Directive.signedText { zeros := true, width } n (fun _ => []) false

/-- An integer with spaces before it. -/
def padSpaces (width : Nat) (n : Int) : List Char :=
  let digits := (toString n).toList
  List.replicate (width - digits.length) ' ' ++ digits

/-- Seconds with three places. -/
def fineSeconds (x : Binary64) : List Char :=
  Directive.realText { zeros := true, width := 6, precision := some 3 } x .fixed false

/-- The day of a moment. -/
def dayOf (m : Moment) : Day := m.dated.day.getD Day.usual

/-- The time of day of a moment. -/
def clockOf (m : Moment) : Clock := m.clocked.clock.getD Clock.midnight

/-- A day with its parts in order. -/
def dayText (d : Day) : List Char :=
  (if d.year < 0 then ['-'] else []) ++
    padZeros 4 d.year.natAbs ++ '-' :: padZeros 2 d.month ++ '-' :: padZeros 2 d.day

/-- A time of day with its parts in order, and parts of seconds if they are asked for. -/
def clockText (finely : Bool) (c : Clock) : List Char :=
  let seconds :=
    if finely then
      let ms := ((c.second.mul (Binary64.ofInt 1000)).add (Binary64.ofRatio false 1 2)).truncate
      padZeros 2 (ms / 1000 % 100) ++ '.' :: padZeros 3 (ms % 1000)
    else padZeros 2 c.second.truncate
  padZeros 2 c.hour ++ ':' :: padZeros 2 c.minute ++ ':' :: seconds

/-- A moment in days. -/
def daysOf (m : Moment) : Binary64 :=
  (Binary64.ofInt m.millis).div (Binary64.ofInt dayLength)

/-- A moment in seconds. -/
def secondsOf (m : Moment) : Int := m.millis / 1000 - Moment.epoch / 1000

/-- A moment in seconds and parts of them. -/
def fineSecondsOf (m : Moment) : Binary64 :=
  (Binary64.ofInt (m.millis - Moment.epoch)).div (Binary64.ofInt 1000)

/-- The part of a moment that a letter asks for. -/
def partText? (m : Moment) (letter : Char) : Option (List Char) :=
  let d := dayOf m
  let c := clockOf m
  let second := c.second.truncate
  let hour := if 12 < c.hour then c.hour - 12 else c.hour
  let hour := if hour = 0 then 12 else hour
  match letter with
  | 'd' => some (padZeros 2 d.day)
  | 'e' => some (padSpaces 2 d.day)
  | 'f' =>
    let most := Binary64.ofDecimal false 59999 (-3)
    some (fineSeconds (if c.second.compareWith most == .gt then most else c.second))
  | 'F' => some (padZeros 4 d.year ++ '-' :: padZeros 2 d.month ++ '-' :: padZeros 2 d.day)
  | 'g' => some (padZeros 2 ((dayOf m.thursday).year.tmod 100))
  | 'G' => some (padZeros 4 (dayOf m.thursday).year)
  | 'H' => some (padZeros 2 c.hour)
  | 'k' => some (padSpaces 2 c.hour)
  | 'I' => some (padZeros 2 hour)
  | 'l' => some (padSpaces 2 hour)
  | 'j' => some (padZeros 3 (m.afterNewYear + 1))
  | 'J' => some (Directive.realText { precision := some 16 } (daysOf m) .shorter false)
  | 'm' => some (padZeros 2 d.month)
  | 'M' => some (padZeros 2 c.minute)
  | 'p' => some (if 12 ≤ c.hour then ['P', 'M'] else ['A', 'M'])
  | 'P' => some (if 12 ≤ c.hour then ['p', 'm'] else ['a', 'm'])
  | 'R' => some (padZeros 2 c.hour ++ ':' :: padZeros 2 c.minute)
  | 's' =>
    some (if m.finely then Directive.realText { precision := some 3 } (fineSecondsOf m) .fixed false
      else (toString (secondsOf m)).toList)
  | 'S' => some (padZeros 2 second)
  | 'T' => some (padZeros 2 c.hour ++ ':' :: padZeros 2 c.minute ++ ':' :: padZeros 2 second)
  | 'u' => some (toString (if m.afterSunday = 0 then 7 else m.afterSunday)).toList
  | 'w' => some (toString m.afterSunday).toList
  | 'U' => some (padZeros 2 ((m.afterNewYear - m.afterSunday + 7) / 7))
  | 'V' => some (padZeros 2 (m.thursday.afterNewYear / 7 + 1))
  | 'W' => some (padZeros 2 ((m.afterNewYear - m.afterMonday + 7) / 7))
  | 'Y' => some (padZeros 4 d.year)
  | '%' => some ['%']
  | _ => none

/-- A text in which parts of a moment stand for letters after percent signs. -/
def momentText? (m : Moment) : List Char → Option (List Char)
  | [] => some []
  | ['%'] => none
  | '%' :: letter :: rest => do some ((← partText? m letter) ++ (← momentText? m rest))
  | c :: rest => (momentText? m rest).map (c :: ·)

/-! ## The time between moments -/

/-- Moves a moment by months as long as it is on the wrong side of another one, which counts the
months down. -/
def approach (step : Int) (isBeyond : Moment → Bool) : Nat → Int → Moment → Int × Moment
  | 0, months, m => (months, m)
  | fuel + 1, months, m =>
    if isBeyond m then
      approach step isBeyond fuel (months - 1)
        { m with day := some ((dayOf m).addMonths step), time := none }.timed
    else (months, m)

/-- The years, months, days and the time from one moment to another. -/
def between (m n : Moment) : List Char :=
  let m := m.full
  let n := n.full
  let isAfter := n.millis ≤ m.millis
  let months := 12 * ((dayOf m).year - (dayOf n).year) + ((dayOf m).month - (dayOf n).month)
  let n :=
    if months = 0 then n
    else
      { n with
        day := some { dayOf n with year := (dayOf m).year, month := (dayOf m).month }
        time := none }.timed
  let (months, n) :=
    if isAfter then approach (-1) (fun n => m.millis < n.millis) 1000 months n
    else approach 1 (fun n => n.millis < m.millis) 1000 (-months) n
  let left := Moment.ofTime (148699540800000 +
    if isAfter then m.millis - n.millis else n.millis - m.millis)
  let c := clockOf left
  (if isAfter then '+' else '-') :: padZeros 4 (months / 12) ++ '-' :: padZeros 2 (months % 12) ++
    '-' :: padZeros 2 ((dayOf left).day - 1) ++ ' ' :: padZeros 2 c.hour ++
    ':' :: padZeros 2 c.minute ++ ':' :: fineSeconds c.second

/-! ## The functions -/

/-- A function of the present. -/
def ofPresent (name : String) (f : Moment → Value) : Function where
  name
  accepts := exactly 0
  isFixed := false
  run _ _ _ := return { value := f Moment.present }

/-- A moment as its day. -/
def momentDay (m : Moment) : Value := ofChars (dayText (dayOf m))

/-- A moment as its time of day. -/
def momentClock (m : Moment) : Value := ofChars (clockText m.finely (clockOf m))

/-- A moment as its day and its time of day. -/
def momentBoth (m : Moment) : Value :=
  let full := m.full
  ofChars (dayText (dayOf full) ++ ' ' :: clockText m.finely (clockOf full))

/-- The functions of moments. -/
def moments : List Function :=
  [ofMoment "date" momentDay,
   ofMoment "time" momentClock,
   ofMoment "datetime" momentBoth,
   ofMoment "julianday" fun m => .ofReal (daysOf m),
   ofMoment "unixepoch" fun m =>
     if m.finely then .ofReal (fineSecondsOf m) else .ofInt (secondsOf m),
   ofMoments "strftime" (fun _ => true) fun steady values => do
     match values with
     | [] => .ok .null
     | format :: values =>
       if format.isNull then .ok .null
       else
         let m ← momentOfAll steady values
         .ok (Value.ofOption ofChars (momentText? m.timed.full (chars format))),
   ofMoments "timediff" (exactly 2) fun steady values => do
     match values with
     | [v, w] =>
       let m ← momentOfAll steady [v]
       let n ← momentOfAll steady [w]
       .ok (ofChars (between m n))
     | _ => .ok .null,
   ofPresent "current_date" momentDay,
   ofPresent "current_time" momentClock,
   ofPresent "current_timestamp" momentBoth]

end SchemaEvolution.Sqlite.Function
