import RuleAudit.Proofs.Calendar
import RuleAudit.Proofs.Text.Cutting
import RuleAudit.Proofs.Text.Numeral

/-!
# Times are read back as they were written

* `Date.read?`, `Instant.read?`: the date and the instant that a text of the usual form names;
* `Date.read?_render`: a date is had again from its text;
* `Instant.read?_renderSecond`: what is had from a text with so many places of the second;
* `Instant.read?_render`: what is had from the text to the millisecond;
* `Instant.read?_renderExact`: an instant is had again from its exact text.
-/

namespace RuleAudit

/-! ### Dates -/

namespace Date

/-- Whether a numeral has a minus sign, and the numeral without its sign. -/
def unsigned : Text → Bool × Text
  | '-' :: digits => (true, digits)
  | '+' :: digits => (false, digits)
  | digits => (false, digits)

/-- Reads a date that has hyphens between year, month and day. -/
def read? (t : Text) : Option Date :=
  let (negative, digits) := unsigned t
  match Text.split '-' digits with
  | [year, month, day] =>
    some
      { year := if negative then -(Text.digitsValue year : Int) else Text.digitsValue year
        month := Text.digitsValue month
        day := Text.digitsValue day }
  | _ => none

theorem unsigned_of_head {t : Text} (h : ∀ c ∈ t.head?, c.isDigit = true) :
    unsigned t = (false, t) := by
  unfold unsigned
  split
  · exact absurd (h _ rfl) (by decide)
  · exact absurd (h _ rfl) (by decide)
  · rfl

theorem unsigned_yearText (year : Int) (rest : Text) :
    unsigned (yearText year ++ rest) =
      (decide (year < 0), Text.decimalPadded 4 year.natAbs ++ rest) := by
  have hhead : ∀ c ∈ (Text.decimalPadded 4 year.natAbs ++ rest).head?, c.isDigit = true := by
    intro c hc
    rw [List.head?_append_of_ne_nil _ (Text.decimalPadded_ne_nil _ _)] at hc
    exact Text.isDigit_of_mem_decimalPadded (List.mem_of_mem_head? hc)
  unfold yearText
  dsimp only
  split
  next h => simp [unsigned, h]
  next h =>
    split
    next => rw [unsigned_of_head hhead, decide_eq_false h]
    next => simp [unsigned, h]

/-- **A date is had again from its text.** -/
theorem read?_render (d : Date) : read? d.render = some d := by
  have hyear : '-' ∉ Text.decimalPadded 4 d.year.natAbs := Text.notMem_decimalPadded rfl
  have hmonth : '-' ∉ Text.decimalPadded 2 d.month := Text.notMem_decimalPadded rfl
  have hday : '-' ∉ Text.decimalPadded 2 d.day := Text.notMem_decimalPadded rfl
  have hsign : (if decide (d.year < 0) = true then -(d.year.natAbs : Int) else d.year.natAbs) =
      d.year := by
    by_cases hneg : d.year < 0
    · rw [if_pos (decide_eq_true hneg)]
      omega
    · rw [if_neg (by simpa using hneg)]
      omega
  rw [read?, render, List.append_assoc, unsigned_yearText, List.cons_append]
  simp only [Text.split_append_cons hyear, Text.split_append_cons hmonth, Text.split_of_notMem hday,
    Text.digitsValue_decimalPadded, hsign]

/-- In a date there are digits, hyphens and signs only. -/
theorem notMem_render {c : Char} (hdigit : c.isDigit = false) (hplus : c ≠ '+') (hminus : c ≠ '-')
    (d : Date) : c ∉ d.render := by
  have hpadded : ∀ {width n : Nat}, c ∉ Text.decimalPadded width n :=
    Text.notMem_decimalPadded hdigit
  have hyear : c ∉ yearText d.year := by
    unfold yearText
    dsimp only
    split
    · simp [hpadded, hminus]
    · split <;> simp [hpadded, hplus]
  simp [render, hyear, hpadded, hminus]

end Date

/-! ### Instants -/

namespace Instant

/-- The decimal places of a second, as nanoseconds. -/
def ofPlaces (places : Text) : Nat := Text.digitsValue places * 10 ^ (9 - places.length)

/-- The instant at a time of day. The second `60` is a leap second, which belongs to the one before
it. -/
def ofClock (d : Date) (hour minute second nanos : Nat) : Instant :=
  let leap := if second = 60 then 1 else 0
  ⟨d.toDays * daySeconds + (hour * 3600 + minute * 60 + (second - leap) : Nat),
    nanos + leap * 1000000000⟩

/-- Reads a date and a time of day in universal time. -/
def read? (t : Text) : Option Instant :=
  match Text.cut 'T' t with
  | (date, some time) =>
    match Text.cut 'Z' time with
    | (clock, some []) =>
      match Text.split ':' clock with
      | [hour, minute, second] =>
        let (whole, places) := Text.cut '.' second
        (Date.read? date).map fun d =>
          ofClock d (Text.digitsValue hour) (Text.digitsValue minute) (Text.digitsValue whole)
            (ofPlaces (places.getD []))
      | _ => none
    | _ => none
  | _ => none

/-- The places of the second with the point before them, if there are any. -/
def pointed (places : Text) : Text := if places = [] then [] else '.' :: places

theorem notMem_pointed {c : Char} (hdigit : c.isDigit = false) (hpoint : c ≠ '.') {places : Text}
    (h : ∀ d ∈ places, d.isDigit = true) : c ∉ pointed places := by
  have hplaces : c ∉ places := by
    intro hc
    rw [h c hc] at hdigit
    cases hdigit
  unfold pointed
  split <;> simp [hpoint, hplaces]

/-- The second and its places come apart at the point. -/
theorem cut_pointed (n : Nat) (places : Text) :
    ∃ shown, Text.cut '.' (Text.decimalPadded 2 n ++ pointed places) =
      (Text.decimalPadded 2 n, shown) ∧ shown.getD [] = places := by
  have hpoint : '.' ∉ Text.decimalPadded 2 n := Text.notMem_decimalPadded rfl
  by_cases h : places = []
  · subst h
    exact ⟨none, by simp [pointed, Text.cut_of_notMem hpoint], rfl⟩
  · exact ⟨some places, by simp [pointed, h, Text.cut_append hpoint], rfl⟩

/-- **What is read from a time with so many places of the second.** -/
theorem read?_renderSecond (t : Instant) {places : Text} (h : ∀ c ∈ places, c.isDigit = true) :
    read? (t.renderSecond ++ pointed places ++ ['Z']) = some (ofClock t.date
      ((t.seconds % daySeconds).toNat / 3600) ((t.seconds % daySeconds).toNat / 60 % 60)
      ((t.seconds % daySeconds).toNat % 60 + if t.nanos < 1000000000 then 0 else 1)
      (ofPlaces places)) := by
  unfold renderSecond
  dsimp only
  generalize (t.seconds % daySeconds).toNat = second
  generalize (second % 60 + if t.nanos < 1000000000 then 0 else 1) = shownSecond
  have htext : t.date.render ++ 'T' :: Text.decimalPadded 2 (second / 3600)
      ++ ':' :: Text.decimalPadded 2 (second / 60 % 60) ++ ':' :: Text.decimalPadded 2 shownSecond
      ++ pointed places ++ ['Z'] =
        t.date.render ++ 'T' :: ((Text.decimalPadded 2 (second / 3600)
          ++ ':' :: (Text.decimalPadded 2 (second / 60 % 60)
            ++ ':' :: (Text.decimalPadded 2 shownSecond ++ pointed places))) ++ 'Z' :: []) := by
    simp
  have hclock : 'Z' ∉ Text.decimalPadded 2 (second / 3600)
      ++ ':' :: (Text.decimalPadded 2 (second / 60 % 60)
        ++ ':' :: (Text.decimalPadded 2 shownSecond ++ pointed places)) := by
    simp [Text.notMem_decimalPadded, notMem_pointed _ _ h]
  have hcolon : ∀ n, ':' ∉ Text.decimalPadded 2 n := fun n => Text.notMem_decimalPadded rfl
  have hlast : ':' ∉ Text.decimalPadded 2 shownSecond ++ pointed places := by
    simp [hcolon, notMem_pointed _ _ h]
  obtain ⟨shown, hcut, hshown⟩ := cut_pointed shownSecond places
  rw [htext, read?, Text.cut_append (Date.notMem_render rfl (by decide) (by decide) _)]
  simp only [Text.cut_append hclock, Text.split_append_cons (hcolon _), Text.split_of_notMem hlast,
    hcut, hshown, Date.read?_render, Text.digitsValue_decimalPadded, Option.map_some]

/-- An instant has less than two seconds of nanoseconds, and more than one only in the last second
of a minute. -/
theorem ofUnix?_bounds {t : Instant} (h : ofUnix? t.seconds t.nanos = some t) :
    t.nanos < 2000000000 ∧ (t.nanos < 1000000000 ∨ t.seconds % 60 = 59) := by
  unfold ofUnix? at h
  dsimp only at h
  split at h
  next hbounds => exact ⟨hbounds.2.2.1, hbounds.2.2.2⟩
  next => cases h

theorem ofClock_date {t : Instant} (h : ofUnix? t.seconds t.nanos = some t) (nanos : Nat) :
    ofClock t.date ((t.seconds % daySeconds).toNat / 3600)
        ((t.seconds % daySeconds).toNat / 60 % 60)
        ((t.seconds % daySeconds).toNat % 60 + if t.nanos < 1000000000 then 0 else 1) nanos =
      ⟨t.seconds, nanos + if t.nanos < 1000000000 then 0 else 1000000000⟩ := by
  obtain ⟨-, hleap⟩ := ofUnix?_bounds h
  rw [ofClock, date, Date.toDays_ofDays]
  simp only [daySeconds]
  by_cases hnanos : t.nanos < 1000000000
  · have hsecond : (t.seconds % 86400).toNat % 60 + 0 ≠ 60 := by omega
    simp only [if_pos hnanos, if_neg hsecond, Instant.mk.injEq, and_true]
    omega
  · have hlast := hleap.resolve_left hnanos
    have hsecond : (t.seconds % 86400).toNat % 60 + 1 = 60 := by omega
    simp only [if_neg hnanos, if_pos hsecond, Instant.mk.injEq, and_true]
    omega

theorem ofPlaces_decimalPadded {width n : Nat} (hwidth : 0 < width) (h : n < 10 ^ width) :
    ofPlaces (Text.decimalPadded width n) = n * 10 ^ (9 - width) := by
  rw [ofPlaces, Text.digitsValue_decimalPadded, Text.length_decimalPadded hwidth h]

/-- **An instant is had again from its text** without its parts below the millisecond. -/
theorem read?_render {t : Instant} (h : ofUnix? t.seconds t.nanos = some t) :
    read? t.render = some ⟨t.seconds, t.nanos / 1000000 * 1000000⟩ := by
  obtain ⟨hnanos, -⟩ := ofUnix?_bounds h
  have hmilli : t.fraction / 1000000 < 10 ^ 3 := by
    have hfraction : t.fraction < 1000000000 := Nat.mod_lt _ (by decide)
    omega
  have htext : t.render = t.renderSecond ++
      pointed (Text.decimalPadded 3 (t.fraction / 1000000)) ++ ['Z'] := by
    rw [render, pointed, if_neg (Text.decimalPadded_ne_nil _ _)]
  have hwhole : t.fraction / 1000000 * 10 ^ (9 - 3) +
      (if t.nanos < 1000000000 then 0 else 1000000000) = t.nanos / 1000000 * 1000000 := by
    rw [fraction]
    split <;> omega
  rw [htext, read?_renderSecond t fun _ => Text.isDigit_of_mem_decimalPadded, ofClock_date h,
    ofPlaces_decimalPadded (by decide) hmilli, hwhole]

/-- The places that an exact text shows of a second. -/
theorem renderExact_eq (t : Instant) : ∃ places : Text, (∀ c ∈ places, c.isDigit = true) ∧
    ofPlaces places = t.fraction ∧ t.renderExact = t.renderSecond ++ pointed places ++ ['Z'] := by
  have hfraction : t.fraction < 1000000000 := Nat.mod_lt _ (by decide)
  have hdigits : ∀ width n, ∀ c ∈ Text.decimalPadded width n, c.isDigit = true :=
    fun _ _ _ => Text.isDigit_of_mem_decimalPadded
  have hpointed : ∀ width n, pointed (Text.decimalPadded width n) =
      '.' :: Text.decimalPadded width n := fun _ _ => if_neg (Text.decimalPadded_ne_nil _ _)
  unfold renderExact
  dsimp only
  generalize t.fraction = fraction at hfraction ⊢
  by_cases hnone : fraction = 0
  · subst hnone
    exact ⟨[], by simp, rfl, rfl⟩
  rw [if_neg hnone]
  by_cases hmilli : fraction % 1000000 = 0
  · refine ⟨_, hdigits 3 (fraction / 1000000), ?_, ?_⟩
    · rw [ofPlaces_decimalPadded (by decide) (by omega)]
      omega
    · rw [if_pos hmilli, hpointed]
  rw [if_neg hmilli]
  by_cases hmicro : fraction % 1000 = 0
  · refine ⟨_, hdigits 6 (fraction / 1000), ?_, ?_⟩
    · rw [ofPlaces_decimalPadded (by decide) (by omega)]
      omega
    · rw [if_pos hmicro, hpointed]
  · refine ⟨_, hdigits 9 fraction, ?_, ?_⟩
    · rw [ofPlaces_decimalPadded (by decide) (by omega)]
      omega
    · rw [if_neg hmicro, hpointed]

/-- **An instant is had again from its exact text.** -/
theorem read?_renderExact {t : Instant} (h : ofUnix? t.seconds t.nanos = some t) :
    read? t.renderExact = some t := by
  obtain ⟨places, hdigits, hplaces, htext⟩ := renderExact_eq t
  obtain ⟨hnanos, -⟩ := ofUnix?_bounds h
  have hwhole : t.nanos % 1000000000 + (if t.nanos < 1000000000 then 0 else 1000000000) = t.nanos := by
    split <;> omega
  rw [htext, read?_renderSecond t hdigits, ofClock_date h, hplaces, fraction, hwhole]

end Instant

end RuleAudit
