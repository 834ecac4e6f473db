import SessionKeeper.Credential.Basic
import SessionKeeper.Proofs.Time.Addition

/-! # Wider windows cover more

Credentials count as expiring within a window if they expire no later than the window ends.
Whoever counts as expiring should then count as expiring within any wider window too, and so
should all credentials that expire before.

The second half holds without exception.  The first one fails at one place.  A window has no
end if it leads out of the calendar, and then it covers every expiry, also if it is a window
backwards that leads out of the calendar by its start.  Credentials that are good for years
count as expiring within such a window, but not within the wider ones that stay in the
calendar (`expiresWithin_mono_iff`, `expires_before_calendar`).

No more of Mathlib than the imports bring. -/

namespace SessionKeeper.Credentials

open Time (Instant Span)

variable {c : Credentials} {now expiry : Instant} {window short long : Span}

/-- A window covers an expiry unless the window ends in the calendar, before the expiry. -/
theorem expiresWithin_iff (hexpiry : c.expiresAt = some expiry) :
    c.expiresWithin now window = true ↔
      ∀ limit, now.add? window = some limit → expiry.moment ≤ limit.moment := by
  unfold expiresWithin
  rw [hexpiry]
  cases hlimit : now.add? window with
  | none => simp
  | some limit =>
    constructor
    · rintro h _ ⟨⟩
      exact Instant.notAfter_iff.mp h
    · intro h
      exact Instant.notAfter_iff.mpr (h limit rfl)

theorem exists_expiry (h : c.expiresWithin now window = true) : ∃ e, c.expiresAt = some e := by
  unfold expiresWithin at h
  split at h
  · cases h
  · exact ⟨_, ‹_›⟩

/-- A window forwards that leads out of the calendar does so by its end, and so do the wider
ones. -/
theorem add?_eq_none_of_le (hforward : 0 ≤ short.nanos) (hle : short.nanos ≤ long.nanos)
    (hnone : now.add? short = none) : now.add? long = none := by
  rw [Instant.add?_eq_none_iff] at hnone ⊢
  have hstart := now.firstSecond_le_later hforward
  have hseconds := Prod.Lex.monotone_fst _ _ (now.later_mono hle)
  right
  omega

/-- **Whoever expires within a window expires within the wider ones**, unless the window leads
out of the calendar by its start, and the wider one ends in the calendar before the expiry.
And with credentials all those expire within a window that expire before them. -/
theorem expiresWithin_mono_iff (now : Instant) (hle : short.nanos ≤ long.nanos) :
    (∀ c : Credentials,
      (c.expiresWithin now short = true → c.expiresWithin now long = true) ↔
        ¬ ∃ expiry limit, c.expiresAt = some expiry ∧ now.add? short = none ∧ short.nanos < 0 ∧
          now.add? long = some limit ∧ expiry.notAfter limit = false) ∧
    ∀ (window : Span) (c d : Credentials) (sooner expiry : Instant),
      c.expiresAt = some sooner → d.expiresAt = some expiry → sooner.notAfter expiry = true →
      d.expiresWithin now window = true → c.expiresWithin now window = true := by
  constructor
  · intro c
    constructor
    · rintro hmono ⟨expiry, limit, hexpiry, hshort, -, hlong, hafter⟩
      -- a window without an end covers the expiry
      have hcovered : c.expiresWithin now short = true := by
        rw [expiresWithin_iff hexpiry, hshort]
        simp
      have hbefore := (expiresWithin_iff hexpiry).mp (hmono hcovered) limit hlong
      rw [Instant.notAfter_iff.mpr hbefore] at hafter
      cases hafter
    · intro hexcept hcovered
      obtain ⟨expiry, hexpiry⟩ := exists_expiry hcovered
      rw [expiresWithin_iff hexpiry] at hcovered ⊢
      intro limit hlong
      cases hshort : now.add? short with
      | some earlier =>
        -- both windows end in the calendar, the wider one later
        calc expiry.moment
            _ ≤ earlier.moment := hcovered earlier hshort
            _ = now.later short.nanos := Instant.moment_of_add? hshort
            _ ≤ now.later long.nanos := now.later_mono hle
            _ = limit.moment := (Instant.moment_of_add? hlong).symm
      | none =>
        have hbackward : short.nanos < 0 := by
          by_contra hforward
          rw [add?_eq_none_of_le (Int.not_lt.mp hforward) hle hshort] at hlong
          cases hlong
        by_contra hafter
        apply hexcept
        refine ⟨expiry, limit, hexpiry, hshort, hbackward, hlong, ?_⟩
        rw [← Bool.not_eq_true, Instant.notAfter_iff]
        exact hafter
  · intro window c d sooner expiry hsooner hexpiry hle hcovered
    rw [expiresWithin_iff hexpiry] at hcovered
    rw [expiresWithin_iff hsooner]
    intro limit hlimit
    exact le_trans (Instant.notAfter_iff.mp hle) (hcovered limit hlimit)

/-- Half a second past midnight on 1 January of the year 2000. -/
def millennium : Instant :=
  ⟨946684800, 500000000, by decide, by decide, by decide, by decide⟩

/-- Credentials that are good for the minute after it. -/
def goodForMinute : Credentials :=
  ⟨"A", "Bearer", none, some ⟨946684860, 500000000, by decide, by decide, by decide, by decide⟩⟩

/-- The window of a minute covers what the empty one covers, and the expiry itself. -/
theorem expires_within_minute :
    goodForMinute.expiresWithin millennium (Span.ofSeconds 0) = false ∧
      goodForMinute.expiresWithin millennium (Span.ofSeconds 60) = true ∧
      goodForMinute.expiresWithin millennium (Span.ofSeconds 300) = true := by
  have hle : (Span.ofSeconds 60).nanos ≤ (Span.ofSeconds 300).nanos := by decide
  obtain ⟨hmono, -⟩ := @expiresWithin_mono_iff (.ofSeconds 60) (.ofSeconds 300) millennium hle
  have hminute : goodForMinute.expiresWithin millennium (Span.ofSeconds 60) = true := by decide
  refine ⟨by decide, hminute, (hmono goodForMinute).mpr ?_ hminute⟩
  -- neither window leads backwards
  rintro ⟨expiry, limit, -, -, hbackward, -⟩
  exact absurd hbackward (by decide)

/-- The longest window backwards covers credentials that are good for another minute.  The
empty window, which is wider, does not. -/
theorem expires_before_calendar :
    ¬ ∀ (c : Credentials) (now : Instant) (short long : Span), short.nanos ≤ long.nanos →
      c.expiresWithin now short = true → c.expiresWithin now long = true := by
  intro hmono
  have hcovered : goodForMinute.expiresWithin millennium Span.min = true := by decide
  have hempty : goodForMinute.expiresWithin millennium (Span.ofSeconds 0) = false := by decide
  have hwider := hmono goodForMinute millennium Span.min (Span.ofSeconds 0) (by decide) hcovered
  rw [hempty] at hwider
  cases hwider

end SessionKeeper.Credentials
