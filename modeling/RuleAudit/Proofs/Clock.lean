import Mathlib.Tactic.IntervalCases
import RuleAudit.Checker
import RuleAudit.Client
import RuleAudit.Proofs.Text.Order
import RuleAudit.Proofs.Timestamp

/-!
# Times in texts and on the time line

The text of an instant shows what a calendar and a clock show at it, in numerals that are filled up
to fixed lengths. So the order of the texts is that of the times to the millisecond.

* `Reading`: what a calendar and a clock show;
* `Reading.text_lt_iff`, `Reading.millis_lt_iff`: texts and times are in the order of what is shown;
* `Instant.render_eq`, `Instant.millis_reading`: the text of an instant and the time in it;
* `Instant.render_common`: what there is to say of the text of an instant.
-/

namespace RuleAudit

open Text

/-! ### Readings -/

/-- What a calendar and a clock show, to the millisecond. -/
structure Reading where
  year : Nat
  month : Nat
  day : Nat
  hour : Nat
  minute : Nat
  second : Nat
  milli : Nat
deriving DecidableEq, Repr

namespace Reading

/-- The date that the calendar shows. -/
def date (r : Reading) : Date := ⟨r.year, r.month, r.day⟩

/-- The text `YYYY-MM-DDTHH:MM:SS.mmmZ`. -/
def text (r : Reading) : Text :=
  decimalPadded 4 r.year ++ '-' :: (decimalPadded 2 r.month ++ '-' :: (decimalPadded 2 r.day ++
    'T' :: (decimalPadded 2 r.hour ++ ':' :: (decimalPadded 2 r.minute ++
      ':' :: (decimalPadded 2 r.second ++ '.' :: (decimalPadded 3 r.milli ++ ['Z']))))))

/-- The milliseconds from the start of 1970. -/
def millis (r : Reading) : Int :=
  (((r.date.toDays * 24 + r.hour) * 60 + r.minute) * 60 + r.second) * 1000 + r.milli

/-- A date of the calendar in a year of four digits, and a time of day. -/
structure IsValid (r : Reading) : Prop where
  year : r.year ≤ 9999
  date : r.date.IsValid
  hour : r.hour < 24
  minute : r.minute < 60
  second : r.second < 60
  milli : r.milli < 1000

/-- The first reading comes before the second. -/
def Before (r s : Reading) : Prop :=
  r.date.Before s.date ∨ r.date = s.date ∧ (r.hour < s.hour ∨ r.hour = s.hour ∧
    (r.minute < s.minute ∨ r.minute = s.minute ∧
      (r.second < s.second ∨ r.second = s.second ∧ r.milli < s.milli)))

section

variable {r s : Reading}

namespace IsValid

theorem year_lt (h : r.IsValid) : r.year < 10 ^ 4 := Nat.lt_succ_of_le h.year

theorem month_lt (h : r.IsValid) : r.month < 10 ^ 2 := by
  have hmonth : r.month ≤ 12 := h.date.month_le
  omega

theorem day_lt (h : r.IsValid) : r.day < 10 ^ 2 := by
  have hday : r.day ≤ Date.daysIn r.year r.month := h.date.day_le
  have hmonth := Date.daysIn_le r.year r.month
  omega

theorem hour_lt (h : r.IsValid) : r.hour < 10 ^ 2 := lt_trans h.hour (by decide)

theorem minute_lt (h : r.IsValid) : r.minute < 10 ^ 2 := lt_trans h.minute (by decide)

theorem second_lt (h : r.IsValid) : r.second < 10 ^ 2 := lt_trans h.second (by decide)

theorem milli_lt (h : r.IsValid) : r.milli < 10 ^ 3 := h.milli

end IsValid

theorem length_text (h : r.IsValid) : r.text.length = 24 := by
  simp only [text, List.length_append, List.length_cons, List.length_nil,
    length_decimalPadded (by decide) h.year_lt, length_decimalPadded (by decide) h.month_lt,
    length_decimalPadded (by decide) h.day_lt, length_decimalPadded (by decide) h.hour_lt,
    length_decimalPadded (by decide) h.minute_lt, length_decimalPadded (by decide) h.second_lt,
    length_decimalPadded (by decide) h.milli_lt]

/-- **Texts are in the order of what they show.** -/
theorem text_lt_iff (hr : r.IsValid) (hs : s.IsValid) : r.text < s.text ↔ r.Before s := by
  have hcons : ∀ (c : Char) (a b : Text), c :: a < c :: b ↔ a < b := by simp
  have hdate : r.date = s.date ↔ r.year = s.year ∧ r.month = s.month ∧ r.day = s.day := by
    simp [date]
  unfold text
  -- numeral by numeral, with the sign behind each
  rw [padded_append_lt_iff (by decide) hr.year_lt hs.year_lt, hcons,
    padded_append_lt_iff (by decide) hr.month_lt hs.month_lt, hcons,
    padded_append_lt_iff (by decide) hr.day_lt hs.day_lt, hcons,
    padded_append_lt_iff (by decide) hr.hour_lt hs.hour_lt, hcons,
    padded_append_lt_iff (by decide) hr.minute_lt hs.minute_lt, hcons,
    padded_append_lt_iff (by decide) hr.second_lt hs.second_lt, hcons,
    padded_append_lt_iff (by decide) hr.milli_lt hs.milli_lt]
  rw [Before, hdate, Date.Before]
  simp only [date, List.lt_irrefl, and_false, or_false]
  omega

/-- **Times are in the order of what is shown.** -/
theorem millis_lt_iff (hr : r.IsValid) (hs : s.IsValid) : r.millis < s.millis ↔ r.Before s := by
  obtain ⟨-, hrdate, hrhour, hrminute, hrsecond, hrmilli⟩ := hr
  obtain ⟨-, hsdate, hshour, hsminute, hssecond, hsmilli⟩ := hs
  rw [Before, ← Date.toDays_lt_iff hrdate hsdate, ← Date.toDays_inj hrdate hsdate, millis, millis]
  omega

end

end Reading

/-! ### Instants -/

namespace Instant

/-- The instant lies in one of the years `0` to `9999`, and in no leap second. -/
structure IsCommon (t : Instant) : Prop where
  nanos : t.nanos < 1000000000
  first : 0 ≤ t.date.year
  last : t.date.year ≤ 9999

/-- The nanoseconds from the start of 1970 to an instant, leap seconds left out. -/
def sinceEpoch (t : Instant) : Int := t.seconds * 1000000000 + t.nanos

/-- What a calendar and a clock show at an instant. -/
def reading (t : Instant) : Reading :=
  let second := (t.seconds % daySeconds).toNat
  { year := t.date.year.toNat
    month := t.date.month
    day := t.date.day
    hour := second / 3600
    minute := second / 60 % 60
    second := second % 60
    milli := t.nanos / 1000000 }

section

variable {t u : Instant}

theorem IsCommon.ofUnix? (h : t.IsCommon) : ofUnix? t.seconds t.nanos = some t := by
  obtain ⟨hnanos, hfirst, hlast⟩ := h
  unfold Instant.ofUnix?
  dsimp only
  refine if_pos ⟨?_, ?_, by omega, .inl hnanos⟩
  · exact le_trans (by decide) hfirst
  · exact le_trans hlast (by decide)

theorem date_reading (h : t.IsCommon) : t.reading.date = t.date := by
  have hyear : (t.date.year.toNat : Int) = t.date.year := Int.toNat_of_nonneg h.first
  simp only [reading, Reading.date, hyear]

theorem isValid_reading (h : t.IsCommon) : t.reading.IsValid := by
  have hnanos := h.nanos
  have hlast := h.last
  have hday : (t.seconds % daySeconds).toNat < 86400 := by
    simp only [daySeconds]
    omega
  constructor
  · change t.date.year.toNat ≤ 9999
    omega
  · rw [date_reading h]
    exact Date.isValid_ofDays _
  all_goals
    dsimp only [reading]
    omega

/-- The text of an instant shows its reading. -/
theorem render_eq (h : t.IsCommon) : t.render = t.reading.text := by
  have hfraction : t.fraction = t.nanos := Nat.mod_eq_of_lt h.nanos
  have hyear : Date.yearText t.date.year = decimalPadded 4 t.date.year.toNat := by
    have hpositive : t.date.year.natAbs = t.date.year.toNat := by
      have hfirst := h.first
      omega
    rw [Date.yearText, if_neg (not_lt.2 h.first), if_pos h.last, hpositive]
  simp only [render, renderSecond, Date.render, hyear, hfraction, if_pos h.nanos, Nat.add_zero,
    Reading.text, reading, List.append_assoc, List.cons_append]

/-- The reading of an instant is its time, rounded down to the millisecond. -/
theorem millis_reading (h : t.IsCommon) : t.reading.millis = t.sinceEpoch / 1000000 := by
  have hnanos := h.nanos
  rw [Reading.millis, date_reading h, date, Date.toDays_ofDays]
  simp only [reading, sinceEpoch, daySeconds]
  omega

theorem render_lt_iff (ht : t.IsCommon) (hu : u.IsCommon) :
    t.render < u.render ↔ t.sinceEpoch / 1000000 < u.sinceEpoch / 1000000 := by
  rw [render_eq ht, render_eq hu,
    Reading.text_lt_iff (isValid_reading ht) (isValid_reading hu),
    ← Reading.millis_lt_iff (isValid_reading ht) (isValid_reading hu), millis_reading ht,
    millis_reading hu]

/-- An instant without its parts below the millisecond. -/
theorem read?_render_common (h : t.IsCommon) : ∃ u, read? t.render = some u ∧ u.IsCommon ∧
    u.sinceEpoch = t.sinceEpoch / 1000000 * 1000000 := by
  have hnanos := h.nanos
  refine ⟨_, read?_render h.ofUnix?, ⟨?_, h.first, h.last⟩, ?_⟩
  · dsimp only
    omega
  · simp only [sinceEpoch]
    omega

end

end Instant

/-! ### Lookups -/

/-- A lookup asks for the time up to the instant that the clock shows. -/
theorem Checker.lookUp_eq [Url.Idna] [Wording] {W : Type} {s : Surroundings (StateM W)} {c : Client}
    {w : Client.Wire (StateM W)} (h : s.backend = c.backend w) (metric : Text) (x : W) :
    Checker.lookUp s metric x = c.ask w (.list .textMap) Client.seriesPath
      (Lookup.parameters (Lookup.selector metric) (.lifetimeUntil (s.now x).1)) (s.now x).2 := by
  have hlookUp : Checker.lookUp s metric x =
      s.backend.series (Lookup.selector metric) (.lifetimeUntil (s.now x).1) (s.now x).2 := rfl
  rw [hlookUp, h]
  dsimp only [Client.backend]

/-- **The text of an instant.** It has 24 characters, which show a date of the calendar and a time
of day; read back, they are the instant rounded down to the millisecond. Texts are in the order of
the times in them, so an earlier instant never has the greater text. And a lookup asks for a time
whose end, as it is sent, is not later than the instant of the lookup. -/
theorem Instant.render_common [Url.Idna] [Wording] {t : Instant} (h : t.IsCommon) :
    (∃ r : Reading, r.IsValid ∧ t.render = r.text ∧ r.millis = t.sinceEpoch / 1000000) ∧
      t.render.length = 24 ∧
      (∃ u, Instant.read? t.render = some u ∧ u.IsCommon ∧
        u.sinceEpoch = t.sinceEpoch / 1000000 * 1000000) ∧
      (∀ u : Instant, u.IsCommon →
        (t.render < u.render ↔ t.sinceEpoch / 1000000 < u.sinceEpoch / 1000000) ∧
          (t.sinceEpoch ≤ u.sinceEpoch → ¬ u.render < t.render)) ∧
      ∀ (W : Type) (s : Surroundings (StateM W)) (c : Client) (w : Client.Wire (StateM W))
        (metric : Text) (x : W), s.backend = c.backend w → (s.now x).1 = t →
          ∃ ending stop,
            Checker.lookUp s metric x = c.ask w (.list .textMap) Client.seriesPath
              [("match[]", Lookup.selector metric), ("start", Instant.earliest.render),
                ("end", ending), ("limit", Text.decimal Lookup.limit)] (s.now x).2 ∧
            Instant.read? ending = some stop ∧ stop.sinceEpoch ≤ t.sinceEpoch := by
  refine ⟨⟨t.reading, isValid_reading h, render_eq h, millis_reading h⟩, ?_,
    read?_render_common h, fun u hu => ⟨render_lt_iff h hu, fun hle hlt => ?_⟩, ?_⟩
  · rw [render_eq h, Reading.length_text (isValid_reading h)]
  · have hmillis := (render_lt_iff hu h).1 hlt
    omega
  · intro W s c w metric x hbackend hnow
    obtain ⟨stop, hstop, -, htime⟩ := read?_render_common h
    refine ⟨t.render, stop, ?_, hstop, by omega⟩
    rw [Checker.lookUp_eq hbackend, hnow]
    rfl

open Plain in
/-- The last nanosecond before 1970, beside the first of the year `0`. -/
theorem Instant.render_common_last :
    ∃ t u : Instant, t = ⟨-1, 999999999⟩ ∧ u = ⟨-62167219200, 0⟩ ∧ t.IsCommon ∧ u.IsCommon ∧
      t.render = "1969-12-31T23:59:59.999Z" ∧ u.render < t.render ∧
      (∃ v, Instant.read? t.render = some v ∧ v.sinceEpoch = -1000000) ∧
      ∃ (s : Surroundings (StateM Unit)) (c : Client) (w : Client.Wire (StateM Unit)),
        s.backend = c.backend w ∧ (s.now ()).1 = t ∧ ∃ ending stop,
          Checker.lookUp s "up" () = c.ask w (.list .textMap) Client.seriesPath
            [("match[]", Lookup.selector "up"), ("start", Instant.earliest.render),
              ("end", ending), ("limit", Text.decimal Lookup.limit)] (s.now ()).2 ∧
          Instant.read? ending = some stop ∧ stop.sinceEpoch ≤ -1 := by
  have ht : IsCommon ⟨-1, 999999999⟩ := by constructor <;> decide
  have hu : IsCommon ⟨-62167219200, 0⟩ := by constructor <;> decide
  let c : Client := ⟨⟨⟨false, [], none, .name "h", none, [[]], none, none⟩, none, 1⟩, rfl⟩
  let w : Client.Wire (StateM Unit) := ⟨fun _ => pure (.error default), fun _ => pure ()⟩
  let s : Surroundings (StateM Unit) :=
    ⟨c.backend w, pure ⟨-1, 999999999⟩, fun _ => pure (), fun _ => pure ()⟩
  obtain ⟨-, -, ⟨v, hv, -, htime⟩, -, hlookup⟩ := render_common ht
  obtain ⟨-, -, -, horder, -⟩ := render_common hu
  refine ⟨_, _, rfl, rfl, ht, hu, by decide, ?_, ⟨v, hv, ?_⟩, s, c, w, rfl, rfl,
    hlookup Unit s c w "up" () rfl rfl⟩
  · exact (horder _ ht).1.2 (by decide)
  · rw [htime]
    decide

end RuleAudit
