import SessionKeeper.Time.Instant

/-! # Every day has one date

`Date.ofDays` divides the number of a day into eras, centuries, spans of four years
and years, and `Date.toDays` adds the parts up again.

* The date of a day exists (`Date.isValid_ofDays`), and its number is that of the day
  (`Date.toDays_ofDays`).
* The days that instants can fall on have dates in the years that the calendar holds
  (`Date.year_ofDays`).

The parts of a day have a name of their own here (`Reckoning`).  The last century of
an era, the last year of a span and the last day of a year are the long ones, and
their bounds are all that the proofs need to know of the division.

Core Lean 4 only; no Mathlib. -/

namespace SessionKeeper.Time

/-! ### The parts of a day's number -/

/-- The parts of the number of a day, where years begin in March. -/
structure Reckoning where
  era : Int
  /-- The century in the era. -/
  century : Int
  /-- The span of four years in the century. -/
  span : Int
  /-- The year in the span. -/
  inSpan : Int
  /-- The day in the year. -/
  ofYear : Int

namespace Reckoning

/-- The parts of a number of days since 0000-03-01. -/
def of (days : Int) : Reckoning :=
  let ofEra := days % 146097
  let century := min (ofEra / 36524) 3
  let ofCentury := ofEra - century * 36524
  let ofSpan := ofCentury % 1461
  let inSpan := min (ofSpan / 365) 3
  ⟨days / 146097, century, ofCentury / 1461, inSpan, ofSpan - inSpan * 365⟩

/-- The year, counted from the one that begins in March of year 0. -/
def year (r : Reckoning) : Int :=
  r.era * 400 + r.century * 100 + r.span * 4 + r.inSpan

/-- The month, counted from March. -/
def shifted (r : Reckoning) : Int :=
  (5 * r.ofYear + 2) / 153

/-- The number of days that the parts make. -/
def days (r : Reckoning) : Int :=
  r.era * 146097 + r.century * 36524 + r.span * 1461 + r.inSpan * 365 + r.ofYear

/-- The date of a day. -/
def date (r : Reckoning) : Date where
  year := if r.shifted < 10 then r.year else r.year + 1
  month := (if r.shifted < 10 then r.shifted + 3 else r.shifted - 9).toNat
  day := (r.ofYear - (153 * r.shifted + 2) / 5 + 1).toNat

/-- The parts are in their bounds. -/
structure Sound (r : Reckoning) : Prop where
  century : 0 ≤ r.century ∧ r.century ≤ 3
  span : 0 ≤ r.span ∧ r.span ≤ 24
  inSpan : 0 ≤ r.inSpan ∧ r.inSpan ≤ 3
  ofYear : 0 ≤ r.ofYear ∧ r.ofYear ≤ 365
  /-- A leap day ends a span; it is missing where a century ends that does not end an
  era. -/
  leap : r.ofYear = 365 → r.inSpan = 3 ∧ (r.span = 24 → r.century = 3)

theorem of_sound (n : Int) : (of n).Sound := by
  have hmod := Int.emod_nonneg n (show (146097 : Int) ≠ 0 by decide)
  have hlt := Int.emod_lt_of_pos n (show (0 : Int) < 146097 by decide)
  generalize hera : n % 146097 = ofEra at hmod hlt
  refine ⟨?_, ?_, ?_, ?_, ?_⟩ <;> simp only [of, hera] <;> omega

theorem days_of (n : Int) : (of n).days = n := by
  simp only [of, days]
  omega

end Reckoning

theorem Date.ofDays_eq (n : Int) : Date.ofDays n = (Reckoning.of (n + epochOffset)).date := rfl

theorem isLeapYear_iff {y : Int} :
    isLeapYear y = true ↔ y % 4 = 0 ∧ (y % 100 ≠ 0 ∨ y % 400 = 0) :=
  decide_eq_true_iff

/-! ### The date of a day -/

namespace Reckoning

section date

variable {r : Reckoning} (h : r.Sound)

include h

theorem shifted_bounds : 0 ≤ r.shifted ∧ r.shifted ≤ 11 := by
  have hday := h.ofYear
  simp only [shifted]
  omega

/-- Five months have 153 days, and a day falls into the month that this gives. -/
theorem ofYear_bounds : 153 * r.shifted ≤ 5 * r.ofYear + 2 ∧
    5 * r.ofYear + 2 < 153 * r.shifted + 153 := by
  have hday := h.ofYear
  simp only [shifted]
  omega

theorem toDays_date : r.date.toDays = r.days - epochOffset := by
  obtain ⟨hmonth, hmonth'⟩ := shifted_bounds h
  obtain ⟨hday, -⟩ := ofYear_bounds h
  have hc := h.century
  have hs := h.span
  have hi := h.inSpan
  -- the parts can be told from the year again
  have hera : r.year / 400 = r.era := by
    simp only [year]
    omega
  have hcentury : r.year % 400 / 100 = r.century := by
    simp only [year]
    omega
  have hspan : r.year % 100 / 4 = r.span := by
    simp only [year]
    omega
  have hinSpan : r.year % 4 = r.inSpan := by
    simp only [year]
    omega
  simp only [date, days]
  generalize r.shifted = m at hmonth hmonth' hday ⊢
  by_cases hm : m < 10
  · -- from March to December the year is the one that began in March
    simp only [Date.toDays, if_pos hm]
    rw [if_neg (by omega), if_neg (by omega), hera, hcentury, hspan, hinSpan]
    omega
  · simp only [Date.toDays, if_neg hm]
    rw [if_pos (by omega), if_pos (by omega), Int.add_sub_cancel, hera, hcentury, hspan, hinSpan]
    omega

theorem isValid_date : r.date.isValid = true := by
  have hmonth := shifted_bounds h
  have hday := ofYear_bounds h
  have hlast := h.ofYear
  have hleap := h.leap
  have hcentury := h.century
  have hspan := h.span
  have hinSpan := h.inSpan
  rw [Date.isValid, decide_eq_true_eq]
  simp only [daysInMonth, isLeapYear_iff, date, year]
  have hcases : r.shifted = 0 ∨ r.shifted = 1 ∨ r.shifted = 2 ∨ r.shifted = 3 ∨ r.shifted = 4 ∨
      r.shifted = 5 ∨ r.shifted = 6 ∨ r.shifted = 7 ∨ r.shifted = 8 ∨ r.shifted = 9 ∨
      r.shifted = 10 ∨ r.shifted = 11 := by omega
  rcases hcases with hm | hm | hm | hm | hm | hm | hm | hm | hm | hm | hm | hm
  all_goals
    rw [hm] at hday
    simp [hm]
  -- only the length of February depends on the year
  all_goals (try split) <;> omega

end date

end Reckoning

/-- The days of the calendar. -/
theorem days_bounds {seconds : Int} (hfirst : firstSecond ≤ seconds)
    (hlast : seconds ≤ lastSecond) : -96465292 ≤ seconds / 86400 ∧ seconds / 86400 ≤ 95026236 := by
  unfold firstSecond at hfirst
  unfold lastSecond at hlast
  omega

namespace Date

theorem toDays_ofDays (n : Int) : (ofDays n).toDays = n := by
  rw [ofDays_eq, Reckoning.toDays_date (Reckoning.of_sound _), Reckoning.days_of]
  omega

theorem isValid_ofDays (n : Int) : (ofDays n).isValid = true := by
  rw [ofDays_eq]
  exact Reckoning.isValid_date (Reckoning.of_sound _)

/-- The days on which instants fall are in years that the calendar holds. -/
theorem year_ofDays {n : Int} (hfirst : -96465292 ≤ n) (hlast : n ≤ 95026236) :
    -262143 ≤ (ofDays n).year ∧ (ofDays n).year ≤ 262142 := by
  have hsound := Reckoning.of_sound (n + epochOffset)
  have hdays := Reckoning.days_of (n + epochOffset)
  rw [ofDays_eq]
  generalize Reckoning.of (n + epochOffset) = r at hsound hdays
  have hmonth := Reckoning.ofYear_bounds hsound
  have := hsound.century
  have := hsound.span
  have := hsound.inSpan
  have := hsound.ofYear
  simp only [Reckoning.days, epochOffset] at hdays
  simp only [Reckoning.date, Reckoning.year]
  have hera : -656 ≤ r.era ∧ r.era ≤ 655 := by omega
  constructor
  · split <;> omega
  · -- only the last era reaches as far as the end of the calendar, in its second century
    by_cases hlastEra : r.era = 655
    · have hcentury : r.century = 0 ∨ r.century = 1 := by omega
      rw [hlastEra] at hdays ⊢
      rcases hcentury with hc | hc <;> rw [hc] at hdays ⊢ <;> split <;> omega
    · split <;> omega

end Date

end SessionKeeper.Time
