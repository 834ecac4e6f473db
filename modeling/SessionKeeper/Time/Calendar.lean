/-! # The calendar

Dates of the proleptic Gregorian calendar, and the day number of each,
counted from 1970-01-01.

Inside this module a year begins in March, so that the leap day is the last
day of its year.  An *era* of 400 such years has 146097 days; it is cut into
centuries, spans of four years, and years, of which all but the last of each
kind have the same length.  `Date.toDays` adds the parts and `Date.ofDays`
divides by them.

Core Lean 4 only; no Mathlib. -/

namespace SessionKeeper.Time

/-- A day by its year, month and day of the month. -/
structure Date where
  year : Int
  month : Nat
  day : Nat
  deriving DecidableEq, Repr

/-- Whether the calendar gives a year a leap day. -/
def isLeapYear (y : Int) : Bool :=
  y % 4 = 0 ∧ (y % 100 ≠ 0 ∨ y % 400 = 0)

/-- How many days a month has. -/
def daysInMonth (y : Int) (m : Nat) : Nat :=
  if m = 2 then if isLeapYear y then 29 else 28
  else if m = 4 ∨ m = 6 ∨ m = 9 ∨ m = 11 then 30
  else 31

/-- Whether the calendar has such a date. -/
def Date.isValid (d : Date) : Bool :=
  1 ≤ d.month ∧ d.month ≤ 12 ∧ 1 ≤ d.day ∧ d.day ≤ daysInMonth d.year d.month

/-- The days from 0000-03-01 to 1970-01-01. -/
def epochOffset : Int := 719468

/-- The number of a date's day. -/
def Date.toDays (d : Date) : Int :=
  let shifted : Int := if d.month ≤ 2 then d.month + 9 else d.month - 3
  let y := if d.month ≤ 2 then d.year - 1 else d.year
  y / 400 * 146097 + y % 400 / 100 * 36524 + y % 100 / 4 * 1461 + y % 4 * 365 +
    (153 * shifted + 2) / 5 + d.day - 1 - epochOffset

/-- The date of a day's number. -/
def Date.ofDays (n : Int) : Date :=
  let days := n + epochOffset
  let ofEra := days % 146097
  let century := min (ofEra / 36524) 3
  let ofCentury := ofEra - century * 36524
  let ofSpan := ofCentury % 1461
  let inSpan := min (ofSpan / 365) 3
  let ofYear := ofSpan - inSpan * 365
  let shifted := (5 * ofYear + 2) / 153
  let y := days / 146097 * 400 + century * 100 + ofCentury / 1461 * 4 + inSpan
  { year := if shifted < 10 then y else y + 1
    month := (if shifted < 10 then shifted + 3 else shifted - 9).toNat
    day := (ofYear - (153 * shifted + 2) / 5 + 1).toNat }

end SessionKeeper.Time
