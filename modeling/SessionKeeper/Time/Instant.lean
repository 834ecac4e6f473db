import SessionKeeper.Time.Calendar

/-! # Instants and spans

An instant is a second of universal time, counted from the start of 1970, and
the nanoseconds into it.  The last second of a minute may be a leap second:
it then has twice as many nanoseconds, of which the second half belongs to
`:60`.  Instants reach from the year -262143 to the year 262142.

A span is a signed number of nanoseconds, about 292 million years at most,
which is more than the calendar holds.  Adding a span to an instant therefore
has a result only where the calendar does not end.

Core Lean 4 only; no Mathlib. -/

namespace SessionKeeper.Time

/-- The first second of the calendar. -/
def firstSecond : Int := -8334601228800

/-- The last second of the calendar. -/
def lastSecond : Int := 8210266876799

theorem firstSecond_eq : firstSecond = (Date.toDays ⟨-262143, 1, 1⟩) * 86400 := by decide

theorem lastSecond_eq : lastSecond = (Date.toDays ⟨262142, 12, 31⟩) * 86400 + 86399 := by decide

/-- The nanoseconds of a second. -/
abbrev nanosPerSecond : Nat := 1000000000

/-- A point of universal time. -/
structure Instant where
  seconds : Int
  nanos : Nat
  first_le : firstSecond ≤ seconds
  le_last : seconds ≤ lastSecond
  nanos_lt : nanos < 2 * nanosPerSecond
  /-- Only the last second of a minute can be a leap second. -/
  leap : nanosPerSecond ≤ nanos → seconds % 60 = 59
  deriving DecidableEq

/-- The instant with the given parts, if the calendar has one. -/
def Instant.ofParts? (seconds : Int) (nanos : Nat) : Option Instant :=
  if h : (firstSecond ≤ seconds ∧ seconds ≤ lastSecond) ∧ nanos < 2 * nanosPerSecond ∧
      (nanosPerSecond ≤ nanos → seconds % 60 = 59) then
    some ⟨seconds, nanos, h.1.1, h.1.2, h.2.1, h.2.2⟩
  else none

/-- The instant with the given nanoseconds since the start of 1970. -/
def Instant.ofNanos? (total : Int) : Option Instant :=
  ofParts? (total / nanosPerSecond) (total % nanosPerSecond).toNat

/-- Instants are ordered by their seconds, then by their nanoseconds. -/
def Instant.notAfter (a b : Instant) : Bool :=
  a.seconds < b.seconds || (a.seconds == b.seconds && a.nanos ≤ b.nanos)

/-- The longest span, in nanoseconds. -/
def maxSpanNanos : Nat := (Nat.pow 2 63 - 1) * 1000000

/-- A length of time, forwards or backwards. -/
structure Span where
  nanos : Int
  bounded : nanos.natAbs ≤ maxSpanNanos
  deriving DecidableEq

/-- The longest span. -/
def Span.max : Span := ⟨maxSpanNanos, by decide⟩

/-- The longest span backwards. -/
def Span.min : Span := ⟨-maxSpanNanos, by decide⟩

/-- The most seconds a span can have. -/
def maxSpanSeconds : Nat := (Nat.pow 2 63 - 1) / 1000

/-- The span of a number of seconds, if there is one. -/
def Span.ofSeconds? (s : Int) : Option Span :=
  if h : s.natAbs ≤ maxSpanSeconds then
    some ⟨s * nanosPerSecond, by
      have : maxSpanSeconds * nanosPerSecond ≤ maxSpanNanos := by decide
      simp only [nanosPerSecond] at *
      omega⟩
  else none

/-- The span of a number of seconds; the longest one if no span has so many. -/
def Span.ofSeconds (s : Int) : Span :=
  (Span.ofSeconds? s).getD Span.max

/-- The instant a span later.  From within a leap second a span that leaves
the second counts as if it began at the end it leaves by. -/
def Instant.add? (i : Instant) (s : Span) : Option Instant :=
  let whole := s.nanos.tdiv nanosPerSecond
  let part := s.nanos.tmod nanosPerSecond
  if i.nanos < nanosPerSecond then
    ofNanos? (i.seconds * nanosPerSecond + i.nanos + s.nanos)
  else if 0 < whole ∨ (0 < part ∧ 2 * nanosPerSecond ≤ i.nanos + part) then
    ofNanos? (i.seconds * nanosPerSecond + (i.nanos - nanosPerSecond) + s.nanos)
  else if whole < 0 then
    ofNanos? ((i.seconds + 1) * nanosPerSecond + (i.nanos - nanosPerSecond) + s.nanos)
  else
    ofParts? i.seconds (i.nanos + part).toNat

end SessionKeeper.Time
