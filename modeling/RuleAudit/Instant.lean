import RuleAudit.Text.Basic

/-!
Instants on the time line and how they are written: the date in the Gregorian calendar, continued to
all years, and the time of day to the millisecond.
-/

namespace RuleAudit

/-! ### Dates -/

/-- A day of the Gregorian calendar, continued to all years; the year `0` is the one before `1`. -/
structure Date where
  year : Int
  month : Nat
  day : Nat
deriving DecidableEq, Repr

namespace Date

/-- The days of four centuries. -/
def eraDays : Int := 146097

/-- The days from the first of March of the year `0` to the first of January of 1970. -/
def epochShift : Int := 719468

/-- The year of an era of four centuries that holds a day of it, years starting in March. -/
def yearOfEra (day : Nat) : Nat := (day - day / 1460 + day / 36524 - day / 146096) / 365

/-- The date of a day, counted from the first of January of 1970. Years are taken to start in
March, so that the leap day is the last of its year. -/
def ofDays (days : Int) : Date :=
  let shifted := days + epochShift
  let era := shifted / eraDays
  let day := (shifted % eraDays).toNat
  let year := yearOfEra day
  let dayOfYear := day - (365 * year + year / 4 - year / 100)
  let month := (5 * dayOfYear + 2) / 153
  { year := era * 400 + year + (if month < 10 then 0 else 1)
    month := if month < 10 then month + 3 else month - 9
    day := dayOfYear - (153 * month + 2) / 5 + 1 }

/-- The year with four digits at least, and with its sign if it is not one of `0` to `9999`. -/
def yearText (year : Int) : Text :=
  let digits := Text.decimalPadded 4 year.natAbs
  if year < 0 then '-' :: digits else if year ≤ 9999 then digits else '+' :: digits

/-- Year, month and day with hyphens. -/
def render (d : Date) : Text :=
  yearText d.year ++ '-' :: Text.decimalPadded 2 d.month ++ '-' :: Text.decimalPadded 2 d.day

end Date

/-! ### Instants -/

/-- An instant: seconds since the start of 1970, and nanoseconds of the second. From a thousand
million on, the nanoseconds lie in a leap second that follows the last second of a minute. -/
structure Instant where
  seconds : Int
  nanos : Nat
deriving DecidableEq, Repr

namespace Instant

/-- The seconds of a day. -/
def daySeconds : Int := 86400

/-- The first year of an instant. -/
def minYear : Int := -262143

/-- The last year of an instant. -/
def maxYear : Int := 262142

/-- The date of an instant. -/
def date (t : Instant) : Date := Date.ofDays (t.seconds / daySeconds)

/-- The instant with these seconds and nanoseconds, if its year is not too far away and a leap
second ends a minute. -/
def ofUnix? (seconds : Int) (nanos : Nat) : Option Instant :=
  let year := (Instant.mk seconds nanos).date.year
  if minYear ≤ year ∧ year ≤ maxYear ∧ nanos < 2000000000 ∧
      (nanos < 1000000000 ∨ seconds % 60 = 59) then some ⟨seconds, nanos⟩
  else none

/-- The first instant of the year `1`, before which no sample can lie. -/
def earliest : Instant := ⟨-62135596800, 0⟩

/-- The nanoseconds behind the last whole second. -/
def fraction (t : Instant) : Nat := t.nanos % 1000000000

/-- The date and the time of day to the second. -/
def renderSecond (t : Instant) : Text :=
  let second := (t.seconds % daySeconds).toNat
  let leap := if t.nanos < 1000000000 then 0 else 1
  t.date.render ++ 'T' :: Text.decimalPadded 2 (second / 3600)
    ++ ':' :: Text.decimalPadded 2 (second / 60 % 60)
    ++ ':' :: Text.decimalPadded 2 (second % 60 + leap)

/-- The date, the time of day with milliseconds, and the mark of universal time. Smaller parts of
the second are cut off. -/
def render (t : Instant) : Text :=
  t.renderSecond ++ '.' :: Text.decimalPadded 3 (t.fraction / 1000000) ++ ['Z']

/-- The same without cutting anything off: the second has as many groups of three places as it
needs. -/
def renderExact (t : Instant) : Text :=
  let places (n value : Nat) : Text := '.' :: Text.decimalPadded n value
  t.renderSecond ++
    (if t.fraction = 0 then []
     else if t.fraction % 1000000 = 0 then places 3 (t.fraction / 1000000)
     else if t.fraction % 1000 = 0 then places 6 (t.fraction / 1000)
     else places 9 t.fraction) ++ ['Z']

end Instant

/-- A stretch of time with both its ends. -/
structure TimeRange where
  start : Instant
  stop : Instant
deriving DecidableEq, Repr

/-- All the time in which samples can lie, up to an instant. -/
def TimeRange.lifetimeUntil (stop : Instant) : TimeRange := ⟨.earliest, stop⟩

end RuleAudit
