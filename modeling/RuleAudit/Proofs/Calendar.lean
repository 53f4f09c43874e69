import Mathlib.Tactic.IntervalCases
import RuleAudit.Instant

/-!
# The days of the Gregorian calendar

The date of a day is computed in years that start in March. Here it is counted back in calendar
years, month by month, so that the day is had again from its date.

* `Date.toDays`: the day of a date, counted through the years and months before it;
* `Date.march_yearOfEra_le`, `Date.lt_march_yearOfEra`: the year of a day is the one that holds it;
* `Date.ofDays_eq_ofMarch`: the date of a day, from its year and its place in the year;
* `Date.toDays_ofDays`: a day is had again from its date;
* `Date.isValid_ofDays`: the date of a day is one of the calendar;
* `Date.toDays_lt_iff`: days come in the order of their dates.
-/

namespace RuleAudit.Date

/-! ### Counting days -/

/-- Every fourth year has a leap day, but of the full centuries only every fourth. -/
def leapDays (year : Int) : Nat :=
  if year % 4 = 0 ∧ (year % 100 ≠ 0 ∨ year % 400 = 0) then 1 else 0

theorem leapDays_le_one (year : Int) : leapDays year ≤ 1 := by
  unfold leapDays
  split <;> omega

/-- The number of days in a month. -/
def daysIn (year : Int) (month : Nat) : Nat :=
  if month = 2 then 28 + leapDays year
  else if month = 4 ∨ month = 6 ∨ month = 9 ∨ month = 11 then 30 else 31

theorem daysIn_le (year : Int) (month : Nat) : daysIn year month ≤ 31 := by
  have hleap := leapDays_le_one year
  unfold daysIn
  split_ifs <;> omega

/-- The days from the start of a year to that of a month. -/
def daysBeforeMonth (year : Int) (month : Nat) : Nat :=
  ((List.range' 1 (month - 1)).map (daysIn year)).sum

/-- The days from the start of the year `0` to that of a year. -/
def daysBeforeYear (year : Int) : Int :=
  365 * year + (year + 3) / 4 - (year + 99) / 100 + (year + 399) / 400

/-- The day of a date, counted from the first of January of 1970. -/
def toDays (d : Date) : Int :=
  daysBeforeYear d.year + daysBeforeMonth d.year d.month + d.day - 1 - daysBeforeYear 1970

theorem daysBeforeYear_add_one (year : Int) :
    daysBeforeYear (year + 1) = daysBeforeYear year + 365 + leapDays year := by
  simp only [daysBeforeYear, leapDays]
  split <;> omega

theorem daysBeforeYear_mono {year later : Int} (h : year ≤ later) :
    daysBeforeYear year ≤ daysBeforeYear later := by
  simp only [daysBeforeYear]
  omega

theorem daysBeforeMonth_add_one (year : Int) {month : Nat} (h : 1 ≤ month) :
    daysBeforeMonth year (month + 1) = daysBeforeMonth year month + daysIn year month := by
  obtain ⟨k, rfl⟩ := Nat.exists_eq_add_of_le' h
  simp [daysBeforeMonth, List.range'_concat, Nat.add_comm]

/-- A month is over before a later one begins. -/
theorem daysBeforeMonth_add_daysIn_le (year : Int) {month later : Nat} (hmonth : 1 ≤ month)
    (h : month < later) :
    daysBeforeMonth year month + daysIn year month ≤ daysBeforeMonth year later := by
  induction h with
  | refl => rw [daysBeforeMonth_add_one year hmonth]
  | @step later hlater ih =>
    have hpos : 1 ≤ later := le_trans hmonth (le_of_lt hlater)
    rw [daysBeforeMonth_add_one year hpos]
    omega

theorem daysBeforeMonth_thirteen (year : Int) : daysBeforeMonth year 13 = 365 + leapDays year := by
  simp [daysBeforeMonth, daysIn, List.range']
  omega

/-- The months from March on are as long in all years. -/
theorem daysBeforeMonth_march (year : Int) {m : Nat} (h : m < 10) :
    daysBeforeMonth year (m + 3) = 59 + leapDays year + (153 * m + 2) / 5 := by
  interval_cases m <;> simp [daysBeforeMonth, daysIn, List.range'] <;> omega

theorem daysBeforeMonth_january (year : Int) {m : Nat} (hlow : 10 ≤ m) (hhigh : m < 12) :
    daysBeforeMonth year (m - 9) + 306 = (153 * m + 2) / 5 := by
  interval_cases m <;> simp [daysBeforeMonth, daysIn]

/-! ### Years that start in March -/

/-- The days of an era before the given of its years. -/
def march (year : Nat) : Nat := 365 * year + year / 4 - year / 100

/-- The days of an era up to one of its days, leap days left out. -/
def ordinary (day : Nat) : Nat := day - day / 1460 + day / 36524 - day / 146096

theorem ordinary_mono {a b : Nat} (h : a ≤ b) (hb : b < 146097) : ordinary a ≤ ordinary b := by
  induction h with
  | refl => rfl
  | @step b _ ih =>
    refine le_trans (ih (by omega)) ?_
    unfold ordinary
    omega

/-- At the start of a year, and not a day before, so many years of 365 days are over. The years of
an era are few enough to look at each; what holds at their starts holds between them, as
`ordinary_mono` says. -/
theorem ordinary_march : ∀ year < 400, 365 * year ≤ ordinary (march year) ∧
    (year ≠ 0 → ordinary (march year - 1) < 365 * year) := by
  decide +kernel

section

variable {day : Nat}

theorem yearOfEra_lt (h : day < 146097) : yearOfEra day < 400 := by
  have hlast : ordinary 146096 < 365 * 400 := by decide
  have hday : ordinary day ≤ ordinary 146096 := ordinary_mono (by omega) (by decide)
  exact Nat.div_lt_of_lt_mul (lt_of_le_of_lt hday hlast)

/-- The year of a day has begun. -/
theorem march_yearOfEra_le (h : day < 146097) : march (yearOfEra day) ≤ day := by
  by_contra hlt
  -- a day before the start of the year would have too few ordinary days for it
  have hyear : 365 * yearOfEra day ≤ ordinary day := Nat.mul_div_le (ordinary day) 365
  have hpos : yearOfEra day ≠ 0 := by
    intro hzero
    rw [hzero] at hlt
    exact hlt (Nat.zero_le day)
  have hbound := (ordinary_march _ (yearOfEra_lt h)).2 hpos
  have hmarch : march (yearOfEra day) ≤ 146097 := by
    have hyear := yearOfEra_lt h
    unfold march
    omega
  have hmono : ordinary day ≤ ordinary (march (yearOfEra day) - 1) :=
    ordinary_mono (by omega) (by omega)
  omega

/-- The year of a day has not ended. -/
theorem lt_march_yearOfEra (h : day < 146097) :
    day < march (yearOfEra day + 1) ∨ yearOfEra day = 399 := by
  by_contra! hge
  -- a day at the start of the next year or later would have too many
  obtain ⟨hge, hlast⟩ := hge
  have hyear : ordinary day < 365 * (yearOfEra day + 1) := by
    have hdiv : yearOfEra day = ordinary day / 365 := rfl
    omega
  have hbound := (ordinary_march (yearOfEra day + 1) (by have := yearOfEra_lt h; omega)).1
  have hmono : ordinary (march (yearOfEra day + 1)) ≤ ordinary day := ordinary_mono hge h
  omega

end

/-! ### From a day to its date and back -/

theorem daysBeforeYear_march (era : Int) {year : Nat} (h : year < 400) :
    daysBeforeYear (era * 400 + year) + 59 + leapDays (era * 400 + year) =
      era * 146097 + march year + 60 := by
  simp only [daysBeforeYear, leapDays, march]
  split <;> omega

/-- A year that starts in March ends with the leap day of the calendar year in which it ends. -/
theorem march_add_one (era : Int) {year : Nat} (h : year < 399) :
    march (year + 1) = march year + 365 + leapDays (era * 400 + year + 1) := by
  have hfour : (era * 400 + year + 1) % 4 = 0 ↔ (year + 1) % 4 = 0 := by omega
  have hcentury : (era * 400 + year + 1) % 100 ≠ 0 ↔ (year + 1) % 100 ≠ 0 := by omega
  have hera : (era * 400 + year + 1) % 400 ≠ 0 := by omega
  simp only [march, leapDays, hfour, hcentury, hera, or_false]
  split <;> omega

/-- No day lies behind the end of its year. -/
theorem dayOfYear_le (era : Int) {day : Nat} (h : day < 146097) :
    day - march (yearOfEra day) ≤ 364 + leapDays (era * 400 + yearOfEra day + 1) := by
  have hlt := yearOfEra_lt h
  by_cases hlast : yearOfEra day = 399
  · have hleap : leapDays (era * 400 + (399 : Nat) + 1) = 1 := if_pos (by omega)
    simp only [hlast, march]
    omega
  · have hnext := march_add_one era (show yearOfEra day < 399 by omega)
    have hday := (lt_march_yearOfEra h).resolve_right hlast
    omega

/-- The date of a day of a year that starts in March. -/
def ofMarch (year : Int) (dayOfYear : Nat) : Date :=
  let month := (5 * dayOfYear + 2) / 153
  { year := year + (if month < 10 then 0 else 1)
    month := if month < 10 then month + 3 else month - 9
    day := dayOfYear - (153 * month + 2) / 5 + 1 }

/-- A day lies in a year of an era, and its date follows from its place in that year. -/
theorem ofDays_eq_ofMarch (n : Int) :
    ∃ (era : Int) (year dayOfYear : Nat), year < 400 ∧
      dayOfYear ≤ 364 + leapDays (era * 400 + year + 1) ∧
      n + epochShift = era * 146097 + march year + dayOfYear ∧
      ofDays n = ofMarch (era * 400 + year) dayOfYear := by
  have hday : ((n + epochShift) % eraDays).toNat < 146097 := by
    simp only [eraDays]
    omega
  have hn : n + epochShift =
      (n + epochShift) / eraDays * 146097 + ((n + epochShift) % eraDays).toNat := by
    simp only [eraDays]
    omega
  refine ⟨(n + epochShift) / eraDays, _, _, yearOfEra_lt hday, dayOfYear_le _ hday, ?_, rfl⟩
  have hmarch := march_yearOfEra_le hday
  omega

theorem toDays_ofMarch (year : Int) {dayOfYear : Nat} (h : dayOfYear ≤ 365) :
    (ofMarch year dayOfYear).toDays =
      daysBeforeYear year + 59 + leapDays year + dayOfYear - daysBeforeYear 1970 := by
  have hmonth : (5 * dayOfYear + 2) / 153 < 12 := by omega
  have hbefore : (153 * ((5 * dayOfYear + 2) / 153) + 2) / 5 ≤ dayOfYear := by omega
  unfold ofMarch toDays
  generalize (5 * dayOfYear + 2) / 153 = month at hmonth hbefore ⊢
  by_cases hearly : month < 10
  · simp only [if_pos hearly, add_zero]
    have hmonths := daysBeforeMonth_march year hearly
    omega
  · simp only [if_neg hearly]
    have hmonths := daysBeforeMonth_january (year + 1) (not_lt.1 hearly) hmonth
    have hyear := daysBeforeYear_add_one year
    omega

/-- **A day is had again from its date.** -/
theorem toDays_ofDays (n : Int) : (ofDays n).toDays = n := by
  obtain ⟨era, year, dayOfYear, hyear, hdayOfYear, hn, hdate⟩ := ofDays_eq_ofMarch n
  have hstart := daysBeforeYear_march era hyear
  have hepoch : daysBeforeYear 1970 = 719528 := by decide
  have hleap := leapDays_le_one (era * 400 + year + 1)
  rw [hdate, toDays_ofMarch _ (by omega), hepoch]
  simp only [epochShift] at hn
  omega

/-! ### Dates in order -/

/-- A date of the calendar: its month and its day are there. -/
structure IsValid (d : Date) : Prop where
  one_le_month : 1 ≤ d.month
  month_le : d.month ≤ 12
  one_le_day : 1 ≤ d.day
  day_le : d.day ≤ daysIn d.year d.month

theorem isValid_ofMarch (year : Int) {dayOfYear : Nat} (h : dayOfYear ≤ 364 + leapDays (year + 1)) :
    (ofMarch year dayOfYear).IsValid := by
  have hleap := leapDays_le_one (year + 1)
  have hmonth : (5 * dayOfYear + 2) / 153 < 12 := by omega
  have hbegun : 153 * ((5 * dayOfYear + 2) / 153) ≤ 5 * dayOfYear + 2 := Nat.mul_div_le _ _
  have hgoes : 5 * dayOfYear + 2 < 153 * ((5 * dayOfYear + 2) / 153) + 153 := by omega
  unfold ofMarch
  generalize (5 * dayOfYear + 2) / 153 = month at hmonth hbegun hgoes ⊢
  interval_cases month <;> constructor <;> simp [daysIn] <;> omega

/-- The date of a day is one of the calendar. -/
theorem isValid_ofDays (n : Int) : (ofDays n).IsValid := by
  obtain ⟨era, year, dayOfYear, -, hdayOfYear, -, hdate⟩ := ofDays_eq_ofMarch n
  rw [hdate]
  exact isValid_ofMarch _ hdayOfYear

/-- The first date comes before the second in the calendar. -/
def Before (d e : Date) : Prop :=
  d.year < e.year ∨ d.year = e.year ∧ (d.month < e.month ∨ d.month = e.month ∧ d.day < e.day)

theorem toDays_lt_of_before {d e : Date} (hd : d.IsValid) (he : e.IsValid) (h : d.Before e) :
    d.toDays < e.toDays := by
  have hday := hd.day_le
  have hfirst := he.one_le_day
  unfold toDays
  rcases h with hyear | ⟨hyear, hmonth | ⟨hmonth, hlater⟩⟩
  · -- the year of the first date is over when that of the second begins
    have hover : daysBeforeMonth d.year d.month + daysIn d.year d.month ≤ 365 + leapDays d.year := by
      rw [← daysBeforeMonth_thirteen]
      exact daysBeforeMonth_add_daysIn_le _ hd.one_le_month (Nat.lt_succ_of_le hd.month_le)
    have hnext := daysBeforeYear_add_one d.year
    have hmono : daysBeforeYear (d.year + 1) ≤ daysBeforeYear e.year := daysBeforeYear_mono hyear
    omega
  · have hover := daysBeforeMonth_add_daysIn_le d.year hd.one_le_month hmonth
    rw [← hyear]
    omega
  · rw [← hyear, ← hmonth]
    omega

theorem before_or_eq_or_before (d e : Date) : d.Before e ∨ d = e ∨ e.Before d := by
  cases d
  cases e
  simp only [Before, mk.injEq]
  omega

/-- **Days come in the order of their dates.** -/
theorem toDays_lt_iff {d e : Date} (hd : d.IsValid) (he : e.IsValid) :
    d.toDays < e.toDays ↔ d.Before e := by
  refine ⟨fun h => ?_, toDays_lt_of_before hd he⟩
  rcases before_or_eq_or_before d e with hbefore | rfl | hafter
  · exact hbefore
  · exact absurd h (lt_irrefl _)
  · exact absurd h (not_lt_of_gt (toDays_lt_of_before he hd hafter))

theorem toDays_inj {d e : Date} (hd : d.IsValid) (he : e.IsValid) :
    d.toDays = e.toDays ↔ d = e := by
  refine ⟨fun h => ?_, congrArg toDays⟩
  rcases before_or_eq_or_before d e with hbefore | heq | hafter
  · exact absurd h (ne_of_lt (toDays_lt_of_before hd he hbefore))
  · exact heq
  · exact absurd h (ne_of_gt (toDays_lt_of_before he hd hafter))

end RuleAudit.Date
