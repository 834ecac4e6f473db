import SessionKeeper.Time.Stamp
import SessionKeeper.Proofs.Time.Calendar

/-! # Stamps can be read again

The reader of time stamps takes more than the writer gives.  Here it is followed over
a text that was written: each of its parts takes what the corresponding part of the
writer has put there, and leaves the rest (`Scan.bind_eq` passes on from one part to
the next).  Numbers end where they should because what is written behind them is no
digit (`Stops`), or because they have all the digits that the reader may take.

So a stamp is read as the instant for which it was written (`Instant.read?_stamp`).
That holds of every instant: of years with a sign, of any number of nanoseconds, and
of leap seconds.

Core Lean 4 only; no Mathlib. -/

namespace SessionKeeper.Time

/-! ### Digits -/

theorem digitsValue_eq (ds : List Char) : digitsValue ds = Nat.ofDigitChars 10 ds 0 := by
  have hstep : (fun (n : Nat) (c : Char) => n * 10 + (c.toNat - '0'.toNat)) =
      fun n c => 10 * n + (c.toNat - '0'.toNat) := by
    funext n c
    rw [Nat.mul_comm]
  rw [digitsValue, hstep, Nat.ofDigitChars_eq_foldl]

theorem digitsValue_padded (width n : Nat) : digitsValue (padded width n) = n := by
  rw [digitsValue_eq, padded, Nat.ofDigitChars_append, Nat.ofDigitChars_replicate_zero,
    Nat.mul_zero, Nat.ofDigitChars_ten_toDigits]

theorem isDigit_padded {width n : Nat} {c : Char} (h : c ∈ padded width n) : c.isDigit = true := by
  rcases List.mem_append.mp h with hzero | hdigit
  · rw [(List.mem_replicate.mp hzero).2]
    rfl
  · exact Nat.isDigit_of_mem_toDigits (by decide) (by decide) hdigit

theorem length_padded {width n : Nat} (hpos : 0 < width) (h : n < Nat.pow 10 width) :
    (padded width n).length = width := by
  have hle : (Nat.toDigits 10 n).length ≤ width :=
    (Nat.length_toDigits_le_iff (by decide) hpos).mpr h
  rw [padded, List.length_append, List.length_replicate]
  omega

theorem padded_ne_nil (width n : Nat) : padded width n ≠ [] :=
  List.append_ne_nil_of_right_ne_nil _ Nat.toDigits_ne_nil

/-- A text in front of which a number ends. -/
def Stops (rest : List Char) : Prop := ∀ c cs, rest = c :: cs → c.isDigit = false

theorem Stops.cons {c : Char} (h : c.isDigit = false) (cs : List Char) : Stops (c :: cs) := by
  intro c' cs' heq
  cases heq
  exact h

theorem Stops.dropWhile {rest : List Char} (h : Stops rest) :
    rest.dropWhile Char.isDigit = rest := by
  cases rest with
  | nil => rfl
  | cons c cs => rw [List.dropWhile_cons_of_neg (by simp [h c cs rfl])]

/-! ### Blanks -/

theorem isBlank_of_isDigit {c : Char} (h : c.isDigit = true) : Text.isBlank c = false := by
  simp only [Char.isDigit, Bool.and_eq_true, decide_eq_true_eq, UInt32.le_iff_toNat_le] at h
  have hlow : 48 ≤ c.toNat := h.1
  have hhigh : c.toNat ≤ 57 := h.2
  simp only [Text.isBlank, Bool.or_eq_false_iff, Bool.and_eq_false_iff, decide_eq_false_iff_not,
    beq_eq_false_iff_ne]
  omega

theorem skipBlanks_cons {c : Char} (h : Text.isBlank c = false) (cs : List Char) :
    Text.skipBlanks (c :: cs) = c :: cs := by
  rw [Text.skipBlanks, List.dropWhile_cons_of_neg (by simp [h])]

/-! ### The parts of the reader -/

/-- The parts of an instant make that instant. -/
theorem Instant.ofParts?_self (i : Instant) : Instant.ofParts? i.seconds i.nanos = some i :=
  dif_pos ⟨⟨i.first_le, i.le_last⟩, i.nanos_lt, i.leap⟩

namespace Scan

/-- Where one reader has ended, the next goes on. -/
theorem bind_eq {α β : Type} {p : Scan α} {cs rest : List Char} {a : α} (h : p cs = some (a, rest))
    (f : α → Scan β) : (p >>= f) cs = f a rest := by
  show (p cs).bind _ = _
  rw [h]
  rfl

/-- A reader of digits takes those in front, if it may take so many and no more follow. -/
theorem digits_append {limit : Nat} {ds rest : List Char} (hdigits : ∀ c ∈ ds, c.isDigit = true)
    (hne : ds ≠ []) (hle : ds.length ≤ limit) (hstop : ds.length = limit ∨ Stops rest) :
    digits limit (ds ++ rest) = some (ds, rest) := by
  have htake : ((ds ++ rest).take limit).takeWhile Char.isDigit = ds := by
    rw [List.take_append, List.take_of_length_le hle, List.takeWhile_append_of_pos hdigits]
    have hnone : (rest.take (limit - ds.length)).takeWhile Char.isDigit = [] := by
      rcases hstop with hlimit | hstop
      · rw [hlimit, Nat.sub_self]
        rfl
      · cases rest with
        | nil => simp
        | cons c cs =>
          cases limit - ds.length with
          | zero => rfl
          | succ k =>
            rw [List.take_succ_cons, List.takeWhile_cons_of_neg (by simp [hstop c cs rfl])]
    rw [hnone, List.append_nil]
  simp only [digits, htake]
  rw [if_neg (by simpa using hne), List.drop_left]

theorem blanks_cons {c : Char} (h : Text.isBlank c = false) (cs : List Char) :
    blanks (c :: cs) = some ((), c :: cs) := by
  show some ((), Text.skipBlanks (c :: cs)) = _
  rw [skipBlanks_cons h]

theorem blanks_padded (width n : Nat) (rest : List Char) :
    blanks (padded width n ++ rest) = some ((), padded width n ++ rest) := by
  cases h : padded width n with
  | nil => exact absurd h (padded_ne_nil width n)
  | cons c cs =>
    exact blanks_cons (isBlank_of_isDigit (isDigit_padded (h ▸ List.mem_cons_self))) _

theorem digits_padded {width limit n : Nat} (rest : List Char)
    (hle : (padded width n).length ≤ limit)
    (hstop : (padded width n).length = limit ∨ Stops rest) :
    digits limit (padded width n ++ rest) = some (padded width n, rest) :=
  digits_append (fun _ => isDigit_padded) (padded_ne_nil _ _) hle hstop

theorem field_padded {n : Nat} (h : n < 100) (rest : List Char) :
    field (padded 2 n ++ rest) = some (n, rest) := by
  have hlength : (padded 2 n).length = 2 := length_padded (by decide) h
  rw [field, bind_eq (blanks_padded 2 n rest),
    bind_eq (digits_padded rest (Nat.le_of_eq hlength) (Or.inl hlength)), digitsValue_padded]
  rfl

theorem discard_eq {α : Type} {p : Scan α} {cs rest : List Char} {a : α}
    (h : p cs = some (a, rest)) : discard p cs = some ((), rest) := by
  show (p cs).bind _ = _
  rw [h]
  rfl

theorem char_cons {p : Char → Bool} {c : Char} (h : p c = true) (rest : List Char) :
    char p (c :: rest) = some (c, rest) := by
  simp only [char, h, if_true]

theorem separator_cons {c : Char} (h : Text.isBlank c = false) (rest : List Char) :
    separator c (c :: rest) = some ((), rest) := by
  rw [separator, bind_eq (blanks_cons h rest)]
  exact discard_eq (char_cons (by simp) rest)

theorem get_eq (cs : List Char) : (get : Scan (List Char)) cs = some (cs, cs) := rfl

theorem year_minus (cs : List Char) :
    year ('-' :: cs) = (do return -(digitsValue (← digits cs.length) : Int) : Scan Int) cs := rfl

theorem year_plus (cs : List Char) :
    year ('+' :: cs) = (do return (digitsValue (← digits cs.length) : Int) : Scan Int) cs := rfl

theorem year_digit {c : Char} (h : c.isDigit = true) (cs : List Char) :
    year (c :: cs) = (do return (digitsValue (← digits 4) : Int) : Scan Int) (c :: cs) := by
  rw [year, bind_eq (blanks_cons (isBlank_of_isDigit h) _), bind_eq (get_eq _)]
  -- a digit is neither of the signs
  refine congrFun ?_ (c :: cs)
  split
  · rename_i heq
    cases heq
    exact absurd h (by decide)
  · rename_i heq
    cases heq
    exact absurd h (by decide)
  · rfl

/-- A year of four digits is taken as it is; any other has a sign, behind which any
number of digits may stand. -/
theorem year_yearText (y : Int) {rest : List Char} (hstop : Stops rest) :
    year (yearText y ++ rest) = some (y, rest) := by
  have hsigned : digits (padded 4 y.natAbs ++ rest).length (padded 4 y.natAbs ++ rest) =
      some (padded 4 y.natAbs, rest) :=
    digits_padded rest (by simp) (Or.inr hstop)
  unfold yearText
  by_cases hshort : 0 ≤ y ∧ y ≤ 9999
  · have hlength : (padded 4 y.natAbs).length = 4 :=
      length_padded (by decide) (show y.natAbs < 10000 by omega)
    have hdigits := digits_padded rest (Nat.le_of_eq hlength) (Or.inl hlength)
    obtain ⟨c, cs, hcs⟩ := List.exists_cons_of_ne_nil (padded_ne_nil 4 y.natAbs)
    have hc : c.isDigit = true := isDigit_padded (hcs ▸ List.mem_cons_self)
    rw [if_pos hshort, hcs, List.cons_append, year_digit hc, ← List.cons_append, ← hcs,
      bind_eq hdigits, digitsValue_padded]
    show some ((y.natAbs : Int), rest) = _
    rw [Int.natAbs_of_nonneg hshort.1]
  · rw [if_neg hshort]
    by_cases hneg : y < 0
    · have habs : -(y.natAbs : Int) = y := by omega
      rw [if_pos hneg, List.cons_append, year_minus, bind_eq hsigned, digitsValue_padded, habs]
      rfl
    · have habs : (y.natAbs : Int) = y := by omega
      rw [if_neg hneg, List.cons_append, year_plus, bind_eq hsigned, digitsValue_padded, habs]
      rfl

theorem fraction_point (cs : List Char) :
    fraction ('.' :: cs) = (do
      let ds ← digits 9
      modify (·.dropWhile Char.isDigit)
      return digitsValue ds * Nat.pow 10 (9 - ds.length) : Scan Nat) cs := rfl

theorem fraction_of_digits {width n : Nat} (hpos : 0 < width) (hle : width ≤ 9)
    (h : n < Nat.pow 10 width) {rest : List Char} (hstop : Stops rest) :
    fraction ('.' :: (padded width n ++ rest)) = some (n * Nat.pow 10 (9 - width), rest) := by
  have hlength := length_padded hpos h
  rw [fraction_point, bind_eq (digits_padded rest (by omega) (Or.inr hstop)), digitsValue_padded,
    hlength]
  show some (n * _, rest.dropWhile Char.isDigit) = _
  rw [hstop.dropWhile]

theorem fraction_none {cs : List Char} (h : ∀ rest, cs ≠ '.' :: rest) :
    fraction cs = some (0, cs) := by
  rw [fraction, bind_eq (get_eq _)]
  show _ = (pure 0 : Scan Nat) cs
  refine congrFun ?_ cs
  split
  · rename_i rest
    exact absurd rfl (h rest)
  · rfl

theorem fraction_fractionText {nanos : Nat} (h : nanos < nanosPerSecond) {rest : List Char}
    (hstop : Stops rest) (hpoint : ∀ cs, rest ≠ '.' :: cs) :
    fraction (fractionText nanos ++ rest) = some (nanos, rest) := by
  unfold fractionText
  simp only [nanosPerSecond] at h
  by_cases hzero : nanos = 0
  · rw [if_pos hzero, List.nil_append, fraction_none hpoint, hzero]
  rw [if_neg hzero]
  by_cases hmilli : nanos % 1000000 = 0
  · have hlt : nanos / 1000000 < 1000 := by omega
    have hvalue : nanos / 1000000 * 1000000 = nanos := by omega
    rw [if_pos hmilli, List.cons_append, fraction_of_digits (by decide) (by decide) hlt hstop]
    exact congrArg (fun n => some (n, rest)) hvalue
  rw [if_neg hmilli]
  by_cases hmicro : nanos % 1000 = 0
  · have hlt : nanos / 1000 < 1000000 := by omega
    have hvalue : nanos / 1000 * 1000 = nanos := by omega
    rw [if_pos hmicro, List.cons_append, fraction_of_digits (by decide) (by decide) hlt hstop]
    exact congrArg (fun n => some (n, rest)) hvalue
  · rw [if_neg hmicro, List.cons_append, fraction_of_digits (by decide) (by decide) h hstop]
    exact congrArg (fun n => some (n, rest)) (Nat.mul_one nanos)

/-! ### Dates and times of day -/

theorem date_text {d : Date} (h : d.isValid = true) (rest : List Char) :
    date (yearText d.year ++ '-' :: (padded 2 d.month ++ '-' :: (padded 2 d.day ++ rest))) =
      some (d, rest) := by
  rw [Date.isValid, decide_eq_true_eq] at h
  obtain ⟨-, hmonth, -, hday⟩ := h
  have hmax : daysInMonth d.year d.month ≤ 31 := by
    unfold daysInMonth
    split
    · split <;> decide
    · split <;> decide
  rw [date, bind_eq (year_yearText _ (.cons (by decide) _)), bind_eq (separator_cons (by decide) _),
    bind_eq (field_padded (by omega) _), bind_eq (separator_cons (by decide) _),
    bind_eq (field_padded (by omega) _)]
  rfl

/-- The time of day that some parts stand for. -/
def clock (hour minute second fraction : Nat) : TimeOfDay :=
  if second = 60 then ⟨hour * 3600 + minute * 60 + 59, nanosPerSecond + fraction⟩
  else ⟨hour * 3600 + minute * 60 + second, fraction⟩

theorem timeOfDay_text {hour minute second nanos : Nat} (hhour : hour < 24) (hminute : minute < 60)
    (hsecond : second < 61) (hnanos : nanos < nanosPerSecond) :
    timeOfDay (padded 2 hour ++ ':' :: (padded 2 minute ++ ':' :: (padded 2 second ++
      (fractionText nanos ++ ['Z'])))) = some (clock hour minute second nanos, ['Z']) := by
  have hstop : Stops ['Z'] := .cons (by decide) []
  have hpoint : ∀ cs, ['Z'] ≠ '.' :: cs := by
    intro cs heq
    cases heq
  have hvalid : ¬ (24 ≤ hour ∨ 60 ≤ minute ∨ 61 ≤ second) := by omega
  rw [timeOfDay, bind_eq (field_padded (by omega) _), bind_eq (separator_cons (by decide) _),
    bind_eq (field_padded (by omega) _), bind_eq (separator_cons (by decide) _),
    bind_eq (field_padded (by omega) _), bind_eq (fraction_fractionText hnanos hstop hpoint),
    bind_eq (blanks_cons (by decide) _), if_neg hvalid, clock]
  by_cases hleap : second = 60
  · simp only [if_pos hleap]
    rfl
  · simp only [if_neg hleap]
    rfl

theorem zone_utc : zone ['Z'] = some (0, []) := by decide

/-- The parts that are written of a time of day stand for it. -/
theorem clock_parts {second nanos : Nat} (hnanos : nanos < 2 * nanosPerSecond)
    (hleap : nanosPerSecond ≤ nanos → second % 60 = 59) :
    clock (second / 3600) (second / 60 % 60)
      (second % 60 + if nanosPerSecond ≤ nanos then 1 else 0) (nanos % nanosPerSecond) =
        ⟨second, nanos⟩ := by
  have hsum : second / 3600 * 3600 + second / 60 % 60 * 60 + second % 60 = second := by omega
  unfold clock
  by_cases h : nanosPerSecond ≤ nanos
  · -- a leap second is written as second 60, and as what it has beyond second 59
    have hlast := hleap h
    have hrest : nanosPerSecond + nanos % nanosPerSecond = nanos := by
      simp only [nanosPerSecond] at h hnanos ⊢
      omega
    rw [if_pos h, if_pos (by omega), hrest]
    rw [hlast] at hsum
    rw [hsum]
  · rw [if_neg h, if_neg (by omega), Nat.add_zero, hsum, Nat.mod_eq_of_lt (by omega)]

theorem instant_write (i : Instant) : instant (i.write ['Z']) = some (i, []) := by
  have hdays := days_bounds i.first_le i.le_last
  have hyear := Date.year_ofDays hdays.1 hdays.2
  have hvalid := Date.isValid_ofDays (i.seconds / 86400)
  have hnumber := Date.toDays_ofDays (i.seconds / 86400)
  have hleap : nanosPerSecond ≤ i.nanos → (i.seconds % 86400).toNat % 60 = 59 := by
    intro h
    have := i.leap h
    omega
  simp only [Instant.write]
  generalize Date.ofDays (i.seconds / 86400) = d at hyear hvalid hnumber ⊢
  have hcalendar : d.inCalendar = true := by
    simp only [Date.inCalendar, decide_eq_true_eq]
    exact ⟨hyear.1, hyear.2, hvalid⟩
  have hlast :
      (i.seconds % 86400).toNat % 60 + (if nanosPerSecond ≤ i.nanos then 1 else 0) < 61 := by
    split <;> omega
  have hseconds : d.toDays * 86400 + ((i.seconds % 86400).toNat : Int) - 0 = i.seconds := by omega
  simp only [List.append_assoc, List.cons_append]
  rw [instant, bind_eq (date_text hvalid _), bind_eq (discard_eq (char_cons (by decide) _)),
    bind_eq (timeOfDay_text (by omega) (by omega) hlast (Nat.mod_lt _ (by decide))),
    bind_eq zone_utc,
    clock_parts i.nanos_lt hleap]
  show ((if ¬ d.inCalendar = true then failure
    else (Instant.ofParts? (d.toDays * 86400 + ((i.seconds % 86400).toNat : Int) - 0) i.nanos :
      Option Instant) : Scan Instant)) [] = _
  rw [if_neg (by simp [hcalendar]), hseconds, Instant.ofParts?_self]
  rfl

end Scan

/-- **A stamp is read as the instant that it was written for.** -/
theorem Instant.read?_stamp (i : Instant) : Instant.read? i.stamp = some i := by
  simp only [Instant.read?, Instant.stamp, String.toList_ofList, Scan.instant_write]

end SessionKeeper.Time
