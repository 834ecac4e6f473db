import SessionKeeper.Proofs.Credential.Record

/-! # What a store holds after it was written

A store is in memory or in a database, and both keep what the last write that succeeded
has left: the record that was put (`Store.put_spec`), or none once it was cleared
(`Store.clear_spec`).  So what is loaded after a save are the credentials that were saved
(`Store.load_of_save`), and nothing of them is lost (`Store.record_lossless`).

Whether a write succeeds does not depend on what is written, and a store that was written
can be written again (`Store.Writable`).

Core Lean 4 only; no Mathlib. -/

namespace SessionKeeper

/-- Whether a record can be written there: anywhere in memory, and in a database that has a
proper table. -/
def Backing.isWritable : Backing → Bool
  | .memory _ => true
  | .database (.table _) => true
  | .database _ => false

namespace Store

variable {s s' : Store}

/-! ### Stores that can be written -/

/-- Every write succeeds. -/
structure Writable (s : Store) : Prop where
  put : ∀ text, ∃ s', s.put text = .ok s'
  clear : ∃ s', s.clear = .ok s'

/-- In memory that is so unless the store refuses. -/
theorem Writable.memory (record : Option String) : Writable ⟨.memory record, false⟩ :=
  ⟨fun _ => ⟨_, rfl⟩, _, rfl⟩

/-- In a database there has to be a proper table. -/
theorem Writable.table (rows : List (String × Database.Cell)) :
    Writable ⟨.database (.table rows), false⟩ :=
  ⟨fun _ => ⟨_, rfl⟩, _, rfl⟩

/-- Whether every write fails. -/
def fails (s : Store) : Bool :=
  s.refusing || !s.backing.isWritable

theorem writable_iff : s.Writable ↔ s.refusing = false ∧ s.backing.isWritable = true := by
  obtain ⟨backing, refusing⟩ := s
  constructor
  · rintro ⟨-, s', hclear⟩
    cases refusing with
    | true => cases hclear
    | false =>
      refine ⟨rfl, ?_⟩
      rcases backing with _ | (_ | _ | _ | _)
      · rfl
      · cases hclear
      · rfl
      · cases hclear
      · cases hclear
  · rintro ⟨hrefusing, hwritable⟩
    cases hrefusing
    rcases backing with record | (_ | rows | _ | _)
    · exact .memory record
    · cases hwritable
    · exact .table rows
    · cases hwritable
    · cases hwritable

theorem fails_eq_false_iff : s.fails = false ↔ s.Writable := by
  rw [writable_iff, fails, Bool.or_eq_false_iff, Bool.not_eq_false']

/-! ### Single writes -/

theorem lookup_without (key : String) (rows : List (String × Database.Cell)) :
    (Database.Relation.without key rows).lookup key = none := by
  rw [List.lookup_eq_none_iff]
  intro row hrow
  have hother : row.1 ≠ key := bne_iff_ne.mp (List.mem_filter.mp hrow).2
  simpa using hother.symm

/-- A store that was cleared could be written, and can be written again. -/
theorem clear_spec (h : s.clear = .ok s') : s'.text? = none ∧ s.Writable ∧ s'.Writable := by
  obtain ⟨backing, refusing⟩ := s
  cases refusing with
  | true => cases h
  | false =>
    cases backing with
    | memory record =>
      cases h
      exact ⟨rfl, .memory _, .memory _⟩
    | database relation =>
      cases relation with
      | table rows =>
        cases h
        refine ⟨?_, .table _, .table _⟩
        simp only [text?, Database.Relation.text?, lookup_without]
      | _ => cases h

/-- So could a store that a record was put into. -/
theorem put_spec {text : String} (h : s.put text = .ok s') :
    s'.text? = some text ∧ s.Writable ∧ s'.Writable := by
  obtain ⟨backing, refusing⟩ := s
  cases refusing with
  | true => cases h
  | false =>
    cases backing with
    | memory record =>
      cases h
      exact ⟨rfl, .memory _, .memory _⟩
    | database relation =>
      cases relation with
      | table rows =>
        cases h
        refine ⟨?_, .table _, .table _⟩
        simp only [text?, Database.Relation.text?, List.lookup_cons_self]
      | _ => cases h

/-- Replace the record by that of some credentials, or remove it. -/
def write (s : Store) (kept : Option Credentials) : Except WriteError Store :=
  match kept with
  | some c => s.save c
  | none => s.clear

theorem write_spec {kept : Option Credentials} (h : s.write kept = .ok s') :
    s'.text? = kept.map (·.record) ∧ s.Writable ∧ s'.Writable := by
  cases kept with
  | some c => exact put_spec h
  | none => exact clear_spec h

theorem Writable.write (h : s.Writable) (kept : Option Credentials) :
    ∃ s', s.write kept = .ok s' := by
  cases kept with
  | some c => exact h.put c.record
  | none => exact h.clear

/-- **An attempt to write succeeds if the store can be written, and otherwise changes
nothing.** -/
theorem attempt_write (s : Store) (kept : Option Credentials) :
    (s.attempt (s.write kept)).text? = (if s.fails then s.text? else kept.map (·.record)) ∧
      (s.attempt (s.write kept)).backing.isWritable = s.backing.isWritable := by
  by_cases hs : s.Writable
  · obtain ⟨s', hwrite⟩ := hs.write kept
    obtain ⟨htext, -, hs'⟩ := write_spec hwrite
    rw [hwrite, fails_eq_false_iff.mpr hs]
    refine ⟨htext, ?_⟩
    show s'.backing.isWritable = _
    rw [(writable_iff.mp hs').2, (writable_iff.mp hs).2]
  · have hsame : s.attempt (s.write kept) = s := by
      cases hwrite : s.write kept with
      | ok s' => exact absurd (write_spec hwrite).2.1 hs
      | error e => rfl
    have hfails : s.fails = true := by
      rw [← fails_eq_false_iff, Bool.not_eq_false] at hs
      exact hs
    rw [hsame, hfails]
    exact ⟨rfl, rfl⟩

/-- An attempt to clear a store that holds no record leaves it without one. -/
theorem text?_attempt_clear (h : s.text? = none) : (s.attempt s.clear).text? = none := by
  cases hclear : s.clear with
  | ok s' => exact (clear_spec hclear).1
  | error e => exact h

/-- What counts as a record has an access token. -/
theorem accessToken_of_load {c : Credentials} (h : s.load = some c) : c.accessToken ≠ "" := by
  obtain ⟨text, -, hkept⟩ := Option.bind_eq_some_iff.mp h
  exact Credentials.accessToken_of_ofKept? hkept

/-- **What was saved is loaded again.** -/
theorem load_of_save {c : Credentials} (hc : c.accessToken ≠ "") (h : s.save c = .ok s') :
    s'.load = some c := by
  rw [load, (put_spec h).1, Option.bind_some, Credentials.ofKept?_record hc]

/-! ### Attempts that succeed -/

namespace Writable

variable {c : Credentials}

theorem attempt_save (h : s.Writable) (c : Credentials) : (s.attempt (s.save c)).Writable := by
  obtain ⟨s', hsave⟩ := h.put c.record
  rw [save, hsave]
  exact (put_spec hsave).2.2

theorem attempt_clear (h : s.Writable) : (s.attempt s.clear).Writable := by
  obtain ⟨s', hclear⟩ := h.clear
  rw [hclear]
  exact (clear_spec hclear).2.2

theorem load_attempt_save (h : s.Writable) (hc : c.accessToken ≠ "") :
    (s.attempt (s.save c)).load = some c := by
  obtain ⟨s', hsave⟩ := h.put c.record
  rw [save, hsave]
  exact load_of_save hc hsave

theorem text?_attempt_clear (h : s.Writable) : (s.attempt s.clear).text? = none := by
  obtain ⟨s', hclear⟩ := h.clear
  rw [hclear]
  exact (clear_spec hclear).1

theorem load_attempt_clear (h : s.Writable) : (s.attempt s.clear).load = none := by
  rw [load, h.text?_attempt_clear, Option.bind_none]

end Writable

/-! ### Saved records -/

/-- **Nothing is lost when credentials are saved.**  Their record is read as just these
credentials, whatever characters the tokens have and whatever instant the expiry is.  It
is what a store holds once they were saved there.  So they are loaded again, unless their
access token is empty: then nothing is. -/
theorem record_lossless (c : Credentials) :
    Credentials.readRecord? (Text.glyphsOf c.record) = some c ∧
    Credentials.ofKept? c.record = (if c.accessToken = "" then none else some c) ∧
    ∀ s s' : Store, s.save c = .ok s' →
      s'.text? = some c.record ∧ s'.load = if c.accessToken = "" then none else some c := by
  have hkept := Credentials.ofKept?_record_eq c
  refine ⟨Credentials.readRecord?_record c, hkept, ?_⟩
  intro s s' hsave
  have htext : s'.text? = some c.record := (put_spec hsave).1
  refine ⟨htext, ?_⟩
  rw [load, htext, Option.bind_some, hkept]

/-- Credentials with characters of every kind, and an expiry in a leap second of the first
year of the calendar. -/
def oddCredentials : Credentials :=
  { accessToken := "\"\\/\n\x00\x1f\x7f\u2028😀"
    tokenType := ""
    refreshToken := some ""
    expiresAt := some ⟨-8334601228741, 1999999999, by decide, by decide, by decide, by decide⟩ }

/-- They are saved as this text in place of one that was no record, and loaded again. -/
theorem record_lossless_odd :
    let s' : Store := ⟨.memory (some oddCredentials.record), false⟩
    oddCredentials.record =
      "\x7b\"accessToken\":\"\\\"\\\\/\\n\\u0000\\u001f\x7f\u2028😀\"," ++
      "\"tokenType\":\"\",\"refreshToken\":\"\"," ++
      "\"expiresAt\":\"-262143-01-01T00:00:60.999999999Z\"\x7d" ∧
    (⟨.memory (some "\x7b"), false⟩ : Store).save oddCredentials = .ok s' ∧
    s'.load = some oddCredentials := by
  intro s'
  have hsave : (⟨.memory (some "\x7b"), false⟩ : Store).save oddCredentials = .ok s' := rfl
  have hsome : oddCredentials.accessToken ≠ "" := by decide
  have hload := ((record_lossless oddCredentials).2.2 _ s' hsave).2
  rw [if_neg hsome] at hload
  exact ⟨by decide +kernel, hsave, hload⟩

end Store

end SessionKeeper
