import Mathlib.Data.Prod.Lex
import SessionKeeper.Time.Instant

/-! # Adding spans to instants

The sum of an instant and a span exists only where the calendar does not end.  Here the sum
is taken without the calendar first (`Instant.later`), as a pair of seconds and nanoseconds
that may stand anywhere, and ordered as instants are.

* An instant has a sum with a span exactly if this pair stands in the calendar, and then the
  pair is the sum (`Instant.add?_eq_none_iff`, `Instant.moment_of_add?`).
* Longer spans come to later pairs (`Instant.later_mono`), also from within a leap second.
  On the line on which that is proved a leap second is one second that is inserted in front
  of the next one.
* Outside of leap seconds whole seconds are added to the seconds
  (`Instant.later_seconds`).

Mathlib gives the lexicographic order of pairs. -/

namespace SessionKeeper.Time

/-! ### The order of instants -/

/-- The place of an instant in the order of instants. -/
def Instant.moment (i : Instant) : Int ×ₗ Nat :=
  toLex (i.seconds, i.nanos)

theorem Instant.notAfter_iff {a b : Instant} : a.notAfter b = true ↔ a.moment ≤ b.moment := by
  unfold notAfter moment
  rw [Prod.Lex.toLex_le_toLex]
  simp

/-- The nanoseconds of an instant since the start of 1970. -/
def Instant.total (i : Instant) : Int :=
  i.seconds * nanosPerSecond + i.nanos

/-- The place of a number of nanoseconds since the start of 1970. -/
def place (total : Int) : Int ×ₗ Nat :=
  toLex (total / nanosPerSecond, (total % nanosPerSecond).toNat)

theorem place_mono {a b : Int} (h : a ≤ b) : place a ≤ place b := by
  unfold place
  rw [Prod.Lex.toLex_le_toLex]
  simp only [nanosPerSecond]
  omega

/-- A place lies within a second, or in front of it, before the second is over. -/
theorem place_le {seconds total : Int} {nanos : Nat}
    (hover : total < (seconds + 1) * nanosPerSecond)
    (h : total ≤ seconds * nanosPerSecond + nanos) : place total ≤ toLex (seconds, nanos) := by
  unfold place
  rw [Prod.Lex.toLex_le_toLex]
  simp only [nanosPerSecond] at *
  omega

/-- Once a second is over, all of it has passed. -/
theorem le_place {seconds total : Int} (hover : (seconds + 1) * nanosPerSecond ≤ total)
    (nanos : Nat) :
    toLex (seconds, nanos) ≤ place total := by
  unfold place
  rw [Prod.Lex.toLex_le_toLex]
  simp only [nanosPerSecond] at *
  omega

/-! ### Sums without a calendar -/

/-- The place of what is `span` nanoseconds after an instant, in a calendar without an end. -/
def Instant.later (i : Instant) (span : Int) : Int ×ₗ Nat :=
  if i.nanos < nanosPerSecond then place (i.total + span)
  else
    -- so long ago the leap second has begun
    let passed : Int := i.nanos - nanosPerSecond + span
    if passed < 0 then place ((i.seconds + 1) * nanosPerSecond + passed)
    else if passed < nanosPerSecond then toLex (i.seconds, (nanosPerSecond + passed).toNat)
    else place (i.seconds * nanosPerSecond + passed)

/-- **Longer spans come to later places.** -/
theorem Instant.later_mono (i : Instant) {a b : Int} (h : a ≤ b) : i.later a ≤ i.later b := by
  unfold later
  by_cases hleap : i.nanos < nanosPerSecond
  · rw [if_pos hleap, if_pos hleap]
    apply place_mono
    omega
  · rw [if_neg hleap, if_neg hleap]
    -- `b` is not in front of the leap second unless `a` is, and behind it if `a` is
    by_cases hbefore : (i.nanos : Int) - nanosPerSecond + b < 0
    · have hbefore' : (i.nanos : Int) - nanosPerSecond + a < 0 := by omega
      simp only [if_pos hbefore, if_pos hbefore']
      apply place_mono
      omega
    · by_cases hafter : (i.nanos : Int) - nanosPerSecond + b < nanosPerSecond
      · simp only [if_neg hbefore, if_pos hafter]
        split
        · apply place_le
          · omega
          · simp only [nanosPerSecond] at *
            omega
        · split
          · rw [Prod.Lex.toLex_le_toLex]
            refine Or.inr ⟨rfl, Int.toNat_le_toNat ?_⟩
            omega
          · omega
      · simp only [if_neg hbefore, if_neg hafter]
        split
        · apply place_mono
          simp only [nanosPerSecond] at *
          omega
        · split
          · apply le_place
            simp only [nanosPerSecond] at *
            omega
          · apply place_mono
            omega

@[simp] theorem Instant.later_zero (i : Instant) : i.later 0 = i.moment := by
  unfold later moment
  have hnanos := i.nanos_lt
  by_cases hleap : i.nanos < nanosPerSecond
  · rw [if_pos hleap]
    unfold place total
    simp only [nanosPerSecond] at *
    rw [toLex_inj, Prod.mk.injEq]
    omega
  · simp only [if_neg hleap, nanosPerSecond] at *
    rw [if_neg (by omega), if_pos (by omega), toLex_inj, Prod.mk.injEq]
    omega

/-- Whole seconds are added to the seconds. -/
theorem Instant.later_seconds {i : Instant} (h : i.nanos < nanosPerSecond) (seconds : Int) :
    i.later (seconds * nanosPerSecond) = toLex (i.seconds + seconds, i.nanos) := by
  unfold later
  rw [if_pos h]
  unfold place total
  simp only [nanosPerSecond] at *
  rw [toLex_inj, Prod.mk.injEq]
  omega

/-! ### Sums in the calendar -/

/-- What is left of a span when its whole seconds are taken away has the sign of the span. -/
theorem tmod_bounds (span : Int) :
    (0 ≤ span → 0 ≤ span.tmod nanosPerSecond ∧ span.tmod nanosPerSecond < nanosPerSecond) ∧
    (span ≤ 0 → -nanosPerSecond < span.tmod nanosPerSecond ∧ span.tmod nanosPerSecond ≤ 0) := by
  have hpos : (0 : Int) < nanosPerSecond := by decide
  constructor
  · intro h
    exact ⟨Int.tmod_nonneg _ h, Int.tmod_lt_of_pos _ hpos⟩
  · intro h
    have hneg : (-span).tmod nanosPerSecond = -span.tmod nanosPerSecond := Int.neg_tmod _ _
    have hlow := Int.tmod_nonneg nanosPerSecond (Int.neg_nonneg_of_nonpos h)
    have hhigh := Int.tmod_lt_of_pos (-span) hpos
    omega

/-- **The sum is what stands at its place, if the calendar has it.** -/
theorem Instant.add?_eq (i : Instant) (s : Span) :
    i.add? s = ofParts? (ofLex (i.later s.nanos)).1 (ofLex (i.later s.nanos)).2 := by
  have hplace : ∀ total,
      ofNanos? total = ofParts? (ofLex (place total)).1 (ofLex (place total)).2 :=
    fun _ => rfl
  unfold add? later
  by_cases hleap : i.nanos < nanosPerSecond
  · rw [if_pos hleap, if_pos hleap]
    exact hplace _
  · rw [if_neg hleap, if_neg hleap]
    have hparts := Int.mul_tdiv_add_tmod s.nanos nanosPerSecond
    obtain ⟨hforward, hbackward⟩ := tmod_bounds s.nanos
    have hnanos := i.nanos_lt
    generalize s.nanos.tdiv nanosPerSecond = whole at *
    generalize s.nanos.tmod nanosPerSecond = part at *
    simp only [nanosPerSecond] at *
    by_cases hafter : 1000000000 ≤ (i.nanos : Int) - 1000000000 + s.nanos
    · -- the leap second is left by its end
      rw [if_pos (by omega), if_neg (by omega), if_neg (by omega), hplace, Int.add_assoc]
    · rw [if_neg (by omega)]
      by_cases hwhole : whole < 0
      · -- it is left by its beginning
        rw [if_pos hwhole, if_pos (by omega), hplace, Int.add_assoc]
      · -- all that changes are the nanoseconds
        have hpart : part = s.nanos := by omega
        rw [if_neg hwhole, hpart]
        by_cases hbefore : (i.nanos : Int) - 1000000000 + s.nanos < 0
        · rw [if_pos (by omega)]
          unfold place
          simp only [ofLex_toLex, nanosPerSecond]
          congr 1 <;> omega
        · rw [if_neg (by omega), if_pos (by omega)]
          simp only [ofLex_toLex]
          congr 1
          omega

/-- What stands at a later place would be an instant, were it not for the calendar. -/
theorem Instant.later_bounds (i : Instant) (span : Int) :
    (ofLex (i.later span)).2 < 2 * nanosPerSecond ∧
      (nanosPerSecond ≤ (ofLex (i.later span)).2 → (ofLex (i.later span)).1 % 60 = 59) := by
  have hplace : ∀ total, (ofLex (place total)).2 < nanosPerSecond := by
    intro total
    unfold place
    simp only [ofLex_toLex, nanosPerSecond]
    omega
  have hordinary : ∀ total, (ofLex (place total)).2 < 2 * nanosPerSecond ∧
      (nanosPerSecond ≤ (ofLex (place total)).2 → (ofLex (place total)).1 % 60 = 59) := by
    intro total
    have hlt := hplace total
    constructor <;> omega
  unfold later
  by_cases hleap : i.nanos < nanosPerSecond
  · rw [if_pos hleap]
    exact hordinary _
  · rw [if_neg hleap]
    have hlast := i.leap (Nat.le_of_not_lt hleap)
    dsimp only
    split
    · exact hordinary _
    · split
      · -- it stands in the same leap second
        simp only [ofLex_toLex]
        constructor <;> omega
      · exact hordinary _

/-- **There is no sum exactly where the calendar ends.** -/
theorem Instant.add?_eq_none_iff {i : Instant} {s : Span} :
    i.add? s = none ↔
      (ofLex (i.later s.nanos)).1 < firstSecond ∨ lastSecond < (ofLex (i.later s.nanos)).1 := by
  obtain ⟨hnanos, hleap⟩ := i.later_bounds s.nanos
  rw [add?_eq, ofParts?, dite_eq_right_iff]
  constructor
  · intro hnone
    by_contra hin
    have hbounds : firstSecond ≤ (ofLex (i.later s.nanos)).1 ∧
        (ofLex (i.later s.nanos)).1 ≤ lastSecond := by omega
    cases hnone ⟨hbounds, hnanos, hleap⟩
  · rintro hout ⟨⟨hfirst, hlast⟩, -⟩
    omega

theorem Instant.moment_of_add? {i limit : Instant} {s : Span} (h : i.add? s = some limit) :
    limit.moment = i.later s.nanos := by
  rw [add?_eq, ofParts?] at h
  split at h
  · cases h
    rfl
  · cases h

/-- Only a span backwards leads in front of the calendar. -/
theorem Instant.firstSecond_le_later (i : Instant) {span : Int} (h : 0 ≤ span) :
    firstSecond ≤ (ofLex (i.later span)).1 := by
  have hlater := Prod.Lex.monotone_fst _ _ (i.later_mono h)
  rw [later_zero] at hlater
  exact Int.le_trans i.first_le hlater

end SessionKeeper.Time
