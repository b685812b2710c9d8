import Mathlib.Order.Monotone.Basic
import SchemaEvolution.Proofs.Migration.Calendar
import SchemaEvolution.Proofs.Migration.LeadingVersion

/-!
# Versions taken from the time

A later second has a greater version (`version_lt_version_iff`): the next second is the next moment
of the calendar (`ofUnixSeconds_succ`), and wherever its fields carry, the version grows
(`version_lt_next`). A version gives its moment back, fits 64 bits at every step of its sum, and is
read from names that it leads.
-/

namespace SchemaEvolution.Moment

open Number (toInt64? exists_toInt64?)

/-- The moment one second later. -/
def next (m : Moment) : Moment :=
  if m.second < 59 then { m with second := m.second + 1 }
  else if m.minute < 59 then { m with minute := m.minute + 1, second := 0 }
  else if m.hour < 23 then { m with hour := m.hour + 1, minute := 0, second := 0 }
  else match nextDate (m.year, m.month, m.day) with
    | (year, month, day) => ⟨year, month, day, 0, 0, 0⟩

/-- The fields name a second of a day of the calendar. -/
structure IsProper (m : Moment) : Prop where
  isDate : IsDate (m.year, m.month, m.day)
  hour_lt : m.hour < 24
  minute_lt : m.minute < 60
  second_lt : m.second < 60

/-- The decimal digits of year, month and day. -/
def dateNumber : Int × Nat × Nat → Int
  | (year, month, day) => year * 10000 + month * 100 + day

/-- The moment whose fields are the digits of a version number: two for each of them, and all in
front for the year. -/
def ofVersion (version : Int) : Moment where
  year := version / 10000000000
  month := (version / 100000000 % 100).toNat
  day := (version / 1000000 % 100).toNat
  hour := (version / 10000 % 100).toNat
  minute := (version / 100 % 100).toNat
  second := (version % 100).toNat

/-- One more summand of a version number, where the product and the sum have to fit 64 bits. -/
def addField? (sum : Int64) (field : Nat × Nat) : Option Int64 := do
  let product ← toInt64? (field.1 * field.2 : Nat)
  toInt64? (sum.toInt + product.toInt)

/-- The fields behind the year, each with its weight in a version number. -/
def fields (m : Moment) : List (Nat × Nat) :=
  [(m.month, 100000000), (m.day, 1000000), (m.hour, 10000), (m.minute, 100), (m.second, 1)]

/-- The version number of a moment, if every product and sum on the way to it fits 64 bits. -/
def version? (m : Moment) : Option Int64 := do
  let year ← toInt64? (m.year * 10000000000)
  m.fields.foldlM addField? year

/-- The seconds are those of the years from -262143 to 262142, and the nanoseconds are less than a
second's worth, or than two in the last second of a minute. -/
structure IsInstant (seconds : Int) (nanoseconds : Nat) : Prop where
  le_seconds : -8334601228800 ≤ seconds
  seconds_le : seconds ≤ 8210266876799
  nanoseconds_lt : nanoseconds < 1000000000 ∨ nanoseconds < 2000000000 ∧ seconds % 60 = 59

variable {m : Moment} {time : Nat}

/-! ### Seconds -/

theorem daysInMonth_le (year : Int) (month : Nat) : daysInMonth year month ≤ 31 := by
  rw [daysInMonth]
  split_ifs <;> decide

/-- The moment of a second of a day has the date of the day. -/
theorem ofUnixSeconds_eq (days : Int) (htime : time < 86400) :
    ofUnixSeconds (86400 * days + time) =
      ⟨(dateOfDays days).1, (dateOfDays days).2.1, (dateOfDays days).2.2,
        time / 3600, time / 60 % 60, time % 60⟩ := by
  have hday : Int.fdiv (86400 * days + time) 86400 = days := by
    rw [Int.fdiv_eq_ediv_of_nonneg _ (by decide)]
    omega
  have htimeOfDay : (Int.fmod (86400 * days + time) 86400).toNat = time := by
    rw [Int.fmod_eq_emod_of_nonneg _ (by decide)]
    omega
  rw [ofUnixSeconds, hday, htimeOfDay]

/-- Every second is one of a day. -/
theorem exists_time (seconds : Int) :
    ∃ (days : Int) (time : Nat), time < 86400 ∧ 86400 * days + time = seconds :=
  ⟨seconds / 86400, (seconds % 86400).toNat, by omega, by omega⟩

theorem isProper_ofUnixSeconds (seconds : Int) : (ofUnixSeconds seconds).IsProper := by
  obtain ⟨days, time, htime, rfl⟩ := exists_time seconds
  rw [ofUnixSeconds_eq days htime]
  exact ⟨isDate_dateOfDays days, by simp only; omega, by simp only; omega, by simp only; omega⟩

/-- The clock starts with the year 1970. -/
theorem ofUnixSeconds_zero : ofUnixSeconds 0 = ⟨1970, 1, 1, 0, 0, 0⟩ := by decide

/-- The next second is the next moment. -/
theorem ofUnixSeconds_succ (seconds : Int) :
    ofUnixSeconds (seconds + 1) = (ofUnixSeconds seconds).next := by
  obtain ⟨days, time, htime, rfl⟩ := exists_time seconds
  rw [ofUnixSeconds_eq days htime, next]
  -- Only the last second of a day carries into the date.
  obtain hinner | rfl : time + 1 < 86400 ∨ time = 86399 := by omega
  · have hseconds : 86400 * days + time + 1 = 86400 * days + (time + 1 : Nat) := by omega
    rw [hseconds, ofUnixSeconds_eq days hinner]
    simp only
    split
    · congr 1 <;> omega
    · split
      · congr 1 <;> omega
      · rw [if_pos (by omega)]
        congr 1 <;> omega
  · have hseconds : 86400 * days + (86399 : Nat) + 1 = 86400 * (days + 1) + (0 : Nat) := by omega
    rw [hseconds, ofUnixSeconds_eq _ (by decide), dateOfDays_succ]
    rfl

/-! ### Versions -/

/-- The next date has a greater number, also where the month or the year carries. -/
theorem dateNumber_lt_nextDate {date : Int × Nat × Nat} (hdate : IsDate date) :
    dateNumber date < dateNumber (nextDate date) := by
  obtain ⟨year, month, day⟩ := date
  obtain ⟨-, hmonth, -, hday⟩ := hdate
  have hlength := daysInMonth_le year month
  rw [nextDate]
  split
  · simp only [dateNumber]
    omega
  · split
    · simp only [dateNumber]
      omega
    · simp only [dateNumber]
      omega

/-- The version of the next moment is greater, whatever fields carry. -/
theorem version_lt_next (hm : m.IsProper) : m.version < m.next.version := by
  have hdate := dateNumber_lt_nextDate hm.isDate
  have hhour := hm.hour_lt
  have hminute := hm.minute_lt
  have hsecond := hm.second_lt
  unfold next
  split
  · simp only [version]
    omega
  · split
    · simp only [version]
      omega
    · split
      · simp only [version]
        omega
      · generalize nextDate (m.year, m.month, m.day) = date at *
        obtain ⟨year, month, day⟩ := date
        simp only [version, dateNumber] at *
        omega

/-- The later second is the one with the greater version. -/
theorem version_lt_version_iff {s t : Int} :
    (ofUnixSeconds s).version < (ofUnixSeconds t).version ↔ s < t := by
  have hmono : StrictMono fun seconds => (ofUnixSeconds seconds).version := by
    refine strictMono_int_of_lt_succ fun seconds => ?_
    rw [ofUnixSeconds_succ]
    exact version_lt_next (isProper_ofUnixSeconds seconds)
  exact hmono.lt_iff_lt

/-- A moment is found from its version. -/
theorem ofVersion_version (hm : m.IsProper) : ofVersion m.version = m := by
  obtain ⟨year, month, day, hour, minute, second⟩ := m
  obtain ⟨⟨-, hmonth, -, hday⟩, hhour, hminute, hsecond⟩ := hm
  have hlength := daysInMonth_le year month
  simp only at *
  simp only [ofVersion, version, mk.injEq]
  refine ⟨?_, ?_, ?_, ?_, ?_, ?_⟩ <;> omega

/-! ### The range -/

theorem year_le_nextDate (date : Int × Nat × Nat) : date.1 ≤ (nextDate date).1 := by
  rw [nextDate]
  split_ifs <;> simp

theorem year_le_next (m : Moment) : m.year ≤ m.next.year := by
  have hdate := year_le_nextDate (m.year, m.month, m.day)
  unfold next
  split_ifs
  all_goals first | exact le_rfl | exact hdate

/-- A later second is not in an earlier year. -/
theorem year_le_year {s t : Int} (h : s ≤ t) : (ofUnixSeconds s).year ≤ (ofUnixSeconds t).year := by
  have hmono : Monotone fun seconds => (ofUnixSeconds seconds).year := by
    refine monotone_int_of_le_succ fun seconds => ?_
    rw [ofUnixSeconds_succ]
    exact year_le_next _
  exact hmono h

/-- The range of seconds is that of the years. -/
theorem year_mem_iff {seconds : Int} :
    -262143 ≤ (ofUnixSeconds seconds).year ∧ (ofUnixSeconds seconds).year ≤ 262142 ↔
      -8334601228800 ≤ seconds ∧ seconds ≤ 8210266876799 := by
  constructor
  · rintro ⟨hlow, hhigh⟩
    constructor
    · by_contra hnot
      have hyear := year_le_year (show seconds ≤ -8334601228801 by omega)
      have hbefore : (ofUnixSeconds (-8334601228801)).year = -262144 := by decide
      omega
    · by_contra hnot
      have hyear := year_le_year (show 8210266876800 ≤ seconds by omega)
      have hbehind : (ofUnixSeconds 8210266876800).year = 262143 := by decide
      omega
  · rintro ⟨hlow, hhigh⟩
    have hfirst : (ofUnixSeconds (-8334601228800)).year = -262143 := by decide
    have hlast : (ofUnixSeconds 8210266876799).year = 262142 := by decide
    exact ⟨hfirst ▸ year_le_year hlow, hlast ▸ year_le_year hhigh⟩

/-- The moments of the calendar between the years are the valid ones. -/
theorem isValid_iff (hm : m.IsProper) :
    m.isValid = true ↔ -262143 ≤ m.year ∧ m.year ≤ 262142 := by
  obtain ⟨⟨hmonth₁, hmonth₂, hday₁, hday₂⟩, hhour, hminute, hsecond⟩ := hm
  simp [isValid, *]

theorem second_ofUnixSeconds (seconds : Int) :
    ((ofUnixSeconds seconds).second : Int) = seconds % 60 := by
  obtain ⟨days, time, htime, rfl⟩ := exists_time seconds
  rw [ofUnixSeconds_eq days htime]
  simp only
  omega

/-- The time stamps that give a moment are those of the range, and the moment is that of their
seconds. -/
theorem ofTimestamp?_eq_some_iff {seconds : Int} {nanoseconds : Nat} :
    ofTimestamp? seconds nanoseconds = some m ↔
      IsInstant seconds nanoseconds ∧ ofUnixSeconds seconds = m := by
  have hsecond := second_ofUnixSeconds seconds
  have hleap : (ofUnixSeconds seconds).second = 59 ↔ seconds % 60 = 59 := by omega
  have hrange := (isValid_iff (isProper_ofUnixSeconds seconds)).trans year_mem_iff
  rw [ofTimestamp?]
  constructor
  · intro h
    simp only [Option.ite_none_right_eq_some, Bool.or_eq_true, Bool.and_eq_true,
      decide_eq_true_eq, Option.some.injEq] at h
    obtain ⟨hnanoseconds, hvalid, rfl⟩ := h
    exact ⟨⟨(hrange.mp hvalid).1, (hrange.mp hvalid).2, hnanoseconds.imp_right
      fun hleap' => ⟨hleap'.1, hleap.mp hleap'.2⟩⟩, rfl⟩
  · rintro ⟨⟨hlow, hhigh, hnanoseconds⟩, rfl⟩
    simp [hrange.mpr ⟨hlow, hhigh⟩, hleap, hnanoseconds]

/-! ### 64 bits -/

/-- The sum of fields, each with its weight. -/
def fieldSum (fields : List (Nat × Nat)) : Nat := (fields.map fun field => field.1 * field.2).sum

theorem fieldSum_nil : fieldSum [] = 0 := rfl

theorem fieldSum_cons (field weight : Nat) (fields : List (Nat × Nat)) :
    fieldSum ((field, weight) :: fields) = field * weight + fieldSum fields := by
  rw [fieldSum, List.map_cons, List.sum_cons, fieldSum]

/-- Fields are added up as long as they, and the sum with them, fit 64 bits. -/
theorem foldlM_addField?_eq (fields : List (Nat × Nat)) (sum : Int64)
    (hfields : fieldSum fields ≤ 9223372036854775807)
    (hsum : sum.toInt + fieldSum fields ≤ 9223372036854775807) :
    ∃ total : Int64, fields.foldlM addField? sum = some total ∧
      total.toInt = sum.toInt + fieldSum fields := by
  induction fields generalizing sum with
  | nil => exact ⟨sum, rfl, by simp [fieldSum]⟩
  | cons field fields ih =>
    obtain ⟨field, weight⟩ := field
    have hlow : -9223372036854775808 ≤ sum.toInt := Int64.le_toInt sum
    rw [fieldSum_cons] at hfields hsum ⊢
    obtain ⟨product, hproduct, hproduct_val⟩ :=
      exists_toInt64? (k := (field * weight : Nat)) (by omega) (by omega)
    obtain ⟨extended, hextended, hextended_val⟩ :=
      exists_toInt64? (k := sum.toInt + product.toInt) (by omega) (by omega)
    obtain ⟨total, htotal, htotal_val⟩ := ih extended (by omega) (by omega)
    refine ⟨total, ?_, by omega⟩
    rw [List.foldlM_cons, addField?, hproduct, Option.bind_eq_bind, Option.bind_some, hextended]
    exact htotal

/-- The version of a moment in range is found without leaving 64 bits. -/
theorem version?_eq (hm : m.IsProper) (hyear : -262143 ≤ m.year ∧ m.year ≤ 262142) :
    ∃ v : Int64, m.version? = some v ∧ v.toInt = m.version := by
  obtain ⟨⟨-, hmonth, -, hday⟩, hhour, hminute, hsecond⟩ := hm
  have hlength := daysInMonth_le m.year m.month
  obtain ⟨year, hyear_eq, hyear_val⟩ :=
    exists_toInt64? (k := m.year * 10000000000) (by omega) (by omega)
  have hfields : fieldSum m.fields = m.month * 100000000 + m.day * 1000000 + m.hour * 10000 +
      m.minute * 100 + m.second := by
    simp only [fields, fieldSum_cons, fieldSum_nil]
    omega
  obtain ⟨total, htotal, htotal_val⟩ :=
    foldlM_addField?_eq m.fields year (by omega) (by omega)
  refine ⟨total, ?_, ?_⟩
  · rw [version?, hyear_eq, Option.bind_eq_bind, Option.bind_some, htotal]
  · rw [htotal_val, hyear_val, hfields, version]
    omega

/-- The version of a moment of the years from 0 on is read from every name that it leads. -/
theorem parseVersion_version {v : Int64} (hv : v.toInt = m.version) (hyear : 0 ≤ m.year)
    {rest : String} (hrest : ∀ c ∈ rest.toList.head?, c.isDigit = false) :
    parseVersion (toString m.version ++ rest) = some v := by
  have hlow : 0 ≤ m.version := by
    rw [version]
    omega
  obtain ⟨n, hn⟩ := Int.eq_ofNat_of_zero_le hlow
  have hhigh : v.toInt < 9223372036854775808 := Int64.toInt_lt v
  have hsame : Int64.ofNat n = v := by
    rw [← Int64.toInt_inj, Int64.toInt_ofNat_of_lt (by omega), hv, hn]
  have hread := parseVersion_written 0 0 (n := n) (by omega) hrest
  have htext : toString (n : Int) = toString n := rfl
  rw [hn, htext]
  simpa [hsame] using hread

/-- Of two instants between the years -262143 and 262142, the later second has the greater version,
and equal seconds have equal versions, whatever the nanoseconds. The moments are those of the
calendar, counted from the start of 1970; their versions are found without leaving 64 bits, give the
moment back, and from the year 0 on are read from every name that they lead. -/
theorem version_follows_time {s₁ s₂ : Int} {n₁ n₂ : Nat} (h₁ : IsInstant s₁ n₁)
    (h₂ : IsInstant s₂ n₂) :
    ∃ (m₁ m₂ : Moment) (v : Int64), ofTimestamp? s₁ n₁ = some m₁ ∧ ofTimestamp? s₂ n₂ = some m₂ ∧
      (s₁ < s₂ ↔ m₁.version < m₂.version) ∧
      (s₁ = s₂ → m₁.version = m₂.version) ∧
      (s₁ = 0 → m₁ = ⟨1970, 1, 1, 0, 0, 0⟩) ∧
      (s₂ = s₁ + 1 → m₂ = m₁.next) ∧
      m₁.version? = some v ∧ v.toInt = m₁.version ∧
      ofVersion m₁.version = m₁ ∧
      (0 ≤ m₁.year → ∀ rest : String, (∀ c ∈ rest.toList.head?, c.isDigit = false) →
        parseVersion (toString m₁.version ++ rest) = some v) := by
  have hm₁ := isProper_ofUnixSeconds s₁
  obtain ⟨v, hv, hval⟩ := version?_eq hm₁ (year_mem_iff.mpr ⟨h₁.le_seconds, h₁.seconds_le⟩)
  refine ⟨ofUnixSeconds s₁, ofUnixSeconds s₂, v, ofTimestamp?_eq_some_iff.mpr ⟨h₁, rfl⟩,
    ofTimestamp?_eq_some_iff.mpr ⟨h₂, rfl⟩, version_lt_version_iff.symm, ?_, ?_, ?_, hv, hval,
    ofVersion_version hm₁, ?_⟩
  · rintro rfl
    rfl
  · rintro rfl
    exact ofUnixSeconds_zero
  · rintro rfl
    exact ofUnixSeconds_succ s₁
  · exact fun hyear rest hrest => parseVersion_version hval hyear hrest

/-- A leap second in front of a leap day, and the start of that day. -/
theorem version_follows_time_to_leap_day :
    (IsInstant 951782399 1500000000 ∧ IsInstant 951782400 0 ∧
      ∀ c ∈ "_add_users".toList.head?, c.isDigit = false) ∧
    ofTimestamp? 951782399 1500000000 = some ⟨2000, 2, 28, 23, 59, 59⟩ ∧
    ofTimestamp? 951782400 0 = some ⟨2000, 2, 29, 0, 0, 0⟩ ∧
    (⟨2000, 2, 28, 23, 59, 59⟩ : Moment).version < (⟨2000, 2, 29, 0, 0, 0⟩ : Moment).version ∧
    (⟨2000, 2, 28, 23, 59, 59⟩ : Moment).next = ⟨2000, 2, 29, 0, 0, 0⟩ ∧
    parseVersion "20000228235959_add_users" = some 20000228235959 := by
  have h₁ : IsInstant 951782399 1500000000 := ⟨by decide, by decide, by decide⟩
  have h₂ : IsInstant 951782400 0 := ⟨by decide, by decide, by decide⟩
  have hrest : ∀ c ∈ "_add_users".toList.head?, c.isDigit = false := by simp
  have hlast : ofTimestamp? 951782399 1500000000 = some ⟨2000, 2, 28, 23, 59, 59⟩ := by decide
  have hfirst : ofTimestamp? 951782400 0 = some ⟨2000, 2, 29, 0, 0, 0⟩ := by decide
  obtain ⟨m₁, m₂, v, hm₁, hm₂, hless, -, -, hnext, -, hv, -, hread⟩ := version_follows_time h₁ h₂
  obtain rfl := Option.some.inj (hlast.symm.trans hm₁)
  obtain rfl := Option.some.inj (hfirst.symm.trans hm₂)
  obtain rfl : v = 20000228235959 := Int64.toInt_inj.mp hv
  exact ⟨⟨h₁, h₂, hrest⟩, hlast, hfirst, hless.mp (by decide), (hnext (by decide)).symm,
    hread (by decide) "_add_users" hrest⟩

end SchemaEvolution.Moment
