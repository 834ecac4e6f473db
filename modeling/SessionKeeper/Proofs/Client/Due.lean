import SessionKeeper.Proofs.Client.Attempts
import SessionKeeper.Proofs.Client.Expiry
import SessionKeeper.Proofs.Time.Addition

/-! # When credentials are replaced ahead of time

A client replaces credentials before it uses them if they expire within a number of seconds,
the threshold.  There are more numbers than spans, more spans than the calendar holds, and the
calendar ends.  Each of these three limits is met with an answer of its own: the longest span
stands for a threshold that is too long for a span, and a window without an end in the calendar
covers every expiry.

Taken together the answers are those of exact arithmetic.  A threshold that is too long for a
span leads out of the calendar, as the longest span does (`add?_window`), and nothing in the
calendar expires after its end.  So the expiry is compared with the second that the threshold
leads to, in the calendar or behind it (`isDue_iff`, `due_exact`).

Mathlib gives the lexicographic order of pairs. -/

namespace SessionKeeper

open Time (Instant Span nanosPerSecond firstSecond lastSecond maxSpanNanos maxSpanSeconds)

namespace Time

variable {now limit expiry : Instant} {t : Nat}

/-! ### Thresholds as spans -/

/-- A number of seconds as a signed one of 64 bits, if it is one. -/
def signed? (t : Nat) : Option Int :=
  if t < 2 ^ 63 then some t else none

/-- Whether a threshold fails to be a signed number or fails to be a span makes no
difference. -/
theorem ofSeconds_eq_signed (t : Nat) :
    Span.ofSeconds t = ((signed? t).bind Span.ofSeconds?).getD .max := by
  unfold signed?
  by_cases hsigned : t < 2 ^ 63
  · rw [if_pos hsigned]
    rfl
  · rw [if_neg hsigned, Span.ofSeconds, Span.ofSeconds?, dif_neg]
    · rfl
    · simp only [maxSpanSeconds, Nat.pow_eq]
      omega

/-- The span of a number of seconds is as long, or it is the longest. -/
theorem ofSeconds_nanos (t : Nat) :
    (Span.ofSeconds t).nanos = min (t * nanosPerSecond : Nat) maxSpanNanos := by
  unfold Span.ofSeconds Span.ofSeconds?
  by_cases hfits : t ≤ maxSpanSeconds
  · rw [dif_pos (by omega)]
    show (t : Int) * nanosPerSecond = _
    simp only [maxSpanSeconds, maxSpanNanos, nanosPerSecond, Nat.pow_eq] at *
    omega
  · rw [dif_neg (by omega)]
    show (maxSpanNanos : Int) = _
    simp only [maxSpanSeconds, maxSpanNanos, nanosPerSecond, Nat.pow_eq] at *
    omega

/-! ### Where a window ends -/

/-- A window ends the threshold later, or without an end in the calendar if there is no such
second. -/
theorem add?_window (hnow : now.nanos < nanosPerSecond) (t : Nat) :
    (now.add? (.ofSeconds t) = none ↔ lastSecond < now.seconds + t) ∧
      ∀ limit, now.add? (.ofSeconds t) = some limit →
        limit.seconds = now.seconds + t ∧ limit.nanos = now.nanos := by
  have hnanos := ofSeconds_nanos t
  have hfirst := now.first_le
  by_cases hfits : t * nanosPerSecond ≤ maxSpanNanos
  · -- the span is as long as the threshold
    rw [Nat.min_eq_left hfits] at hnanos
    have hlater : now.later (Span.ofSeconds t).nanos = toLex (now.seconds + t, now.nanos) := by
      rw [hnanos, Int.natCast_mul]
      exact Instant.later_seconds hnow t
    constructor
    · rw [Instant.add?_eq_none_iff, hlater, ofLex_toLex]
      omega
    · intro limit hlimit
      have hmoment := Instant.moment_of_add? hlimit
      rw [hlater] at hmoment
      exact Prod.mk.inj (toLex_inj.mp hmoment)
  · -- the longest span leads out of the calendar, from wherever one starts
    rw [Nat.min_eq_right (Nat.le_of_not_le hfits)] at hnanos
    have hout : lastSecond < (ofLex (now.later maxSpanNanos)).1 := by
      have hmono := Prod.Lex.monotone_fst _ _ (now.later_mono
        (show (maxSpanSeconds : Int) * nanosPerSecond ≤ maxSpanNanos by decide))
      rw [Instant.later_seconds hnow, ofLex_toLex] at hmono
      simp only [firstSecond, lastSecond, maxSpanSeconds, Nat.pow_eq] at *
      omega
    have hnone : now.add? (.ofSeconds t) = none := by
      rw [Instant.add?_eq_none_iff, hnanos]
      exact Or.inr hout
    refine ⟨iff_of_true hnone ?_, ?_⟩
    · simp only [firstSecond, lastSecond, maxSpanNanos, nanosPerSecond, Nat.pow_eq] at *
      omega
    · intro limit hlimit
      rw [hnone] at hlimit
      cases hlimit

/-- Outside of leap seconds the order of instants is that of their nanoseconds. -/
theorem moment_le_iff (hexpiry : expiry.nanos < nanosPerSecond) (hnow : now.nanos < nanosPerSecond)
    (t : Nat) :
    expiry.moment ≤ toLex (now.seconds + t, now.nanos) ↔
      expiry.total ≤ now.total + t * nanosPerSecond := by
  unfold Instant.moment Instant.total
  rw [Prod.Lex.toLex_le_toLex]
  simp only [nanosPerSecond] at *
  omega

end Time

open Time (signed? ofSeconds_eq_signed ofSeconds_nanos add?_window moment_le_iff)

/-- **Credentials expire within a threshold exactly if they expire no later than the second it
leads to**, whether that is in the calendar or behind it. -/
theorem Credentials.expiresWithin_seconds {c : Credentials} {now expiry : Instant}
    (hnow : now.nanos < nanosPerSecond) (hexpiry : c.expiresAt = some expiry) (t : Nat) :
    c.expiresWithin now (.ofSeconds t) = true ↔
      expiry.moment ≤ toLex (now.seconds + t, now.nanos) := by
  obtain ⟨hnone, hsome⟩ := add?_window hnow t
  unfold expiresWithin
  rw [hexpiry]
  cases hlimit : now.add? (.ofSeconds t) with
  | none =>
    -- nothing expires behind the end of the calendar
    have hout := hnone.mp hlimit
    have hlast := expiry.le_last
    refine iff_of_true rfl ?_
    rw [Instant.moment, Prod.Lex.toLex_le_toLex]
    left
    show expiry.seconds < now.seconds + t
    omega
  | some limit =>
    obtain ⟨hseconds, hnanos⟩ := hsome limit hlimit
    rw [← hseconds, ← hnanos]
    exact Instant.notAfter_iff

namespace Client

variable {c : Client} {e : Event} {n : Nat} {r : Http.Request} {used : Snapshot}
  {expiry : Instant}

theorem isDue_iff {x : Credentials} (hthreshold : 1 ≤ c.options.refreshThreshold)
    (hnow : c.now.nanos < nanosPerSecond) (hexpiry : x.expiresAt = some expiry) :
    c.isDue x = true ↔
      expiry.moment ≤ toLex (c.now.seconds + c.options.refreshThreshold, c.now.nanos) := by
  unfold isDue Options.window?
  rw [if_neg (by omega)]
  exact x.expiresWithin_seconds hnow hexpiry _

/-- **A regular request asks for newer credentials before it is sent exactly if its own expire
no later than the threshold says**, in exact arithmetic, whatever the threshold is.  None of
the steps in which that is computed goes astray: the threshold becomes a span of as many
seconds, or the longest one, and the end of the window is that second, or there is no such
second in the calendar. -/
theorem due_exact (hchecks : Checks n r used c e) (hthreshold : 1 ≤ c.options.refreshThreshold)
    (hnow : c.now.nanos < nanosPerSecond) (hexpiry : used.credentials.expiresAt = some expiry) :
    let t := c.options.refreshThreshold
    let limit : Int ×ₗ Nat := toLex (c.now.seconds + t, c.now.nanos)
    (c.isDue used.credentials = true ↔ expiry.moment ≤ limit) ∧
    (expiry.nanos < nanosPerSecond →
      (expiry.moment ≤ limit ↔ expiry.total ≤ c.now.total + t * nanosPerSecond)) ∧
    (expiry.moment ≤ limit → c.step e = (c.noting e).ask n r .ahead used.generation) ∧
    (limit < expiry.moment → c.step e = (c.noting e).sendFirst n r (some used)) ∧
    ∃ window, c.options.window? = some window ∧
      window = ((signed? t).bind Span.ofSeconds?).getD .max ∧
      window.nanos = min (t * nanosPerSecond : Nat) maxSpanNanos ∧
      (c.now.add? window = none ↔ lastSecond < c.now.seconds + t) ∧
      ∀ i, c.now.add? window = some i → i.seconds = c.now.seconds + t ∧ i.nanos = c.now.nanos := by
  intro t limit
  have hdue : c.isDue used.credentials = true ↔ expiry.moment ≤ limit :=
    isDue_iff hthreshold hnow hexpiry
  -- what a request looks at is not what it takes note of
  obtain ⟨place, rfl, -⟩ := hchecks.starts.step
  have hbegins : c.step (.go place) =
      if c.isDue used.credentials then (c.noting (.go place)).ask n r .ahead used.generation
      else (c.noting (.go place)).sendFirst n r (some used) := by
    have hcurrent : (c.noting (.go place)).session.current = some used := hchecks.current
    rw [hchecks.starts.step_eq, begin_of_signedIn hchecks.kind hcurrent]
    rfl
  refine ⟨hdue, fun hordinary => moment_le_iff hordinary hnow t, ?_, ?_, ?_⟩
  · intro hsoon
    rw [hbegins, if_pos (hdue.mpr hsoon)]
  · intro hlasting
    rw [hbegins, if_neg fun hexpires => (not_le_of_gt hlasting) (hdue.mp hexpires)]
  · refine ⟨.ofSeconds t, if_neg (by omega), ofSeconds_eq_signed t, ofSeconds_nanos t, ?_⟩
    exact add?_window hnow t

/-- The last second of the calendar. -/
def doomsday : Instant :=
  { epoch with
    seconds := lastSecond, first_le := by decide, le_last := by decide, leap := by decide }

/-- Credentials that are good until then. -/
def everlasting : Credentials :=
  ⟨"one", "Bearer", none, some doomsday⟩

/-- A client that was started with them at the start of 1970, and has been handed a request. -/
def everlastingClient (threshold : Nat) : Client :=
  (Client.new { refreshThreshold := threshold } ⟨.memory (some everlasting.record), false⟩
    epoch).after
    [.spawn (.ok page)]

/-- The largest threshold of 64 bits leads past the calendar, and the client asks.  The threshold
that ends one second too early does not make it ask. -/
theorem due_exact_everlasting :
    let long := everlastingClient (2 ^ 64 - 1)
    let short := everlastingClient (lastSecond.toNat - 1)
    Checks 0 page ⟨.first, everlasting⟩ long (.go 0) ∧
    Checks 0 page ⟨.first, everlasting⟩ short (.go 0) ∧
    long.step (.go 0) = (long.noting (.go 0)).ask 0 page .ahead .first ∧
    short.step (.go 0) = (short.noting (.go 0)).sendFirst 0 page (some ⟨.first, everlasting⟩) := by
  intro long short
  have hlong : Checks 0 page ⟨.first, everlasting⟩ long (.go 0) :=
    ⟨⟨⟨0, rfl, by cbv⟩, .exchange, by cbv⟩, rfl, by decide +kernel⟩
  have hshort : Checks 0 page ⟨.first, everlasting⟩ short (.go 0) :=
    ⟨⟨⟨0, rfl, by cbv⟩, .exchange, by cbv⟩, rfl, by decide +kernel⟩
  have hexpiry : everlasting.expiresAt = some doomsday := rfl
  obtain ⟨-, -, hasks, -⟩ := due_exact hlong (by decide) (by decide) hexpiry
  obtain ⟨-, -, -, hsends, -⟩ := due_exact hshort (by decide) (by decide) hexpiry
  refine ⟨hlong, hshort, hasks ?_, hsends ?_⟩
  · exact Prod.Lex.toLex_le_toLex.mpr (by decide)
  · exact Prod.Lex.toLex_lt_toLex.mpr (by decide)

end Client

end SessionKeeper
