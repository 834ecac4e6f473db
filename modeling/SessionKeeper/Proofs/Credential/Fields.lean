import SessionKeeper.Proofs.Credential.Record
import SessionKeeper.Proofs.Lists

/-! # A record is read by its known fields

Only the members whose key names a field count in a record, and only together: their order
does not matter, and neither do the members between them, whatever is nested in their values.
A record tells credentials (`Record.Tells`) if it gives the two required fields one text each,
and the two optional ones at most one value, which is a text or null.  A record has a flaw
(`Record.Flawed`) exactly if it tells none.

One thing is asked of all members: their keys are texts.  A key with an escape that stands for
no character, such as half a surrogate pair, spoils the record, although the same escape does
no harm in the value of an unknown member.

Core Lean 4 only; no Mathlib. -/

namespace SessionKeeper

open Json (Tree treeMember)
open Text (Glyph)
open Time (Instant)

namespace Record

/-! ### What a record tells -/

/-- The known fields of a record with their values, in order. -/
def known (members : List (Option String × Tree)) : List (Field × Tree) :=
  members.filterMap fun m => (m.1.bind Field.ofKey?).map fun f => (f, m.2)

/-- The values that a record gives to a field. -/
def values (f : Field) (members : List (Option String × Tree)) : List Tree :=
  (known members).filterMap fun p => if p.1 = f then some p.2 else none

/-- Every key is a text. -/
def Named (members : List (Option String × Tree)) : Prop :=
  ∀ m ∈ members, m.1.isSome = true

/-- How a field is given that may be missing. -/
inductive Given {α : Type} (read? : String → Option α) : List Tree → Option α → Prop where
  | absent : Given read? [] none
  | null : Given read? [.null] none
  | text {text : String} {v : α} (read : read? text = some v) :
      Given read? [.string (some text)] (some v)

/-- A record tells some credentials. -/
structure Tells (members : List (Option String × Tree)) (c : Credentials) : Prop where
  named : Named members
  accessToken : values .accessToken members = [.string (some c.accessToken)]
  tokenType : values .tokenType members = [.string (some c.tokenType)]
  refreshToken : Given some (values .refreshToken members) c.refreshToken
  expiresAt : Given Instant.read? (values .expiresAt members) c.expiresAt

/-! ### Fields and drafts -/

/-- What a field holds. -/
def Field.Content : Field → Type
  | .accessToken => String
  | .tokenType => String
  | .refreshToken => Option String
  | .expiresAt => Option Instant

/-- What a value says about a field. -/
def Field.content? (f : Field) (t : Tree) : Option f.Content :=
  match f with
  | .accessToken => text? t
  | .tokenType => text? t
  | .refreshToken => optionalText? t
  | .expiresAt => optionalInstant? t

/-- What a draft has for a field. -/
def Draft.content (d : Draft) (f : Field) : Option f.Content :=
  match f with
  | .accessToken => d.accessToken
  | .tokenType => d.tokenType
  | .refreshToken => d.refreshToken
  | .expiresAt => d.expiresAt

/-- The draft with a field filled in. -/
def Draft.put (d : Draft) (f : Field) (v : f.Content) : Draft :=
  match f, v with
  | .accessToken, v => { d with accessToken := some v }
  | .tokenType, v => { d with tokenType := some v }
  | .refreshToken, v => { d with refreshToken := some v }
  | .expiresAt, v => { d with expiresAt := some v }

namespace Draft

variable {d d' : Draft} {f g : Field}

theorem eq_of_content (h : ∀ f, d.content f = d'.content f) : d = d' := by
  obtain ⟨accessToken, tokenType, refreshToken, expiresAt⟩ := d
  obtain rfl : accessToken = d'.accessToken := h .accessToken
  obtain rfl : tokenType = d'.tokenType := h .tokenType
  obtain rfl : refreshToken = d'.refreshToken := h .refreshToken
  obtain rfl : expiresAt = d'.expiresAt := h .expiresAt
  rfl

@[simp]
theorem content_put (v : f.Content) : (d.put f v).content f = some v := by
  cases f <;> rfl

/-- The other fields stay. -/
theorem content_put_of_ne (v : f.Content) (h : g ≠ f) : (d.put f v).content g = d.content g := by
  cases f <;> cases g <;> first | rfl | exact absurd rfl h

@[simp]
theorem content_empty (f : Field) : Draft.content {} f = none := by
  cases f <;> rfl

/-- A field is filled in only once, and only with a value that says something about it. -/
theorem set?_eq (t : Tree) :
    d.set? f t = if (d.content f).isSome then none else (f.content? t).map (d.put f) := by
  cases f <;> rfl

theorem set?_eq_some_iff {t : Tree} : d.set? f t = some d' ↔
    d.content f = none ∧ ∃ v, f.content? t = some v ∧ d.put f v = d' := by
  rw [set?_eq]
  cases d.content f with
  | none => simp
  | some v => simp

end Draft

/-! ### The known fields -/

theorem known_append (ms ms' : List (Option String × Tree)) :
    known (ms ++ ms') = known ms ++ known ms' :=
  List.filterMap_append

theorem known_cons_of_unknown {key : Option String} (h : key.bind Field.ofKey? = none) (t : Tree)
    (ms : List (Option String × Tree)) : known ((key, t) :: ms) = known ms := by
  rw [known, List.filterMap_cons, h]
  rfl

theorem known_cons_of_key {key : String} {f : Field} (h : Field.ofKey? key = some f) (t : Tree)
    (ms : List (Option String × Tree)) : known ((some key, t) :: ms) = (f, t) :: known ms := by
  rw [known, List.filterMap_cons, Option.bind_some, h]
  rfl

@[simp]
theorem values_nil (f : Field) : values f [] = [] := rfl

theorem values_append (f : Field) (ms ms' : List (Option String × Tree)) :
    values f (ms ++ ms') = values f ms ++ values f ms' := by
  rw [values, known_append, List.filterMap_append]
  rfl

theorem values_cons_of_unknown {key : Option String} (h : key.bind Field.ofKey? = none) (f : Field)
    (t : Tree) (ms : List (Option String × Tree)) : values f ((key, t) :: ms) = values f ms := by
  rw [values, known_cons_of_unknown h, values]

theorem values_cons_of_key {key : String} {f : Field} (h : Field.ofKey? key = some f) (t : Tree)
    (ms : List (Option String × Tree)) : values f ((some key, t) :: ms) = t :: values f ms := by
  rw [values, known_cons_of_key h, List.filterMap_cons, if_pos rfl, values]

theorem values_cons_of_ne {key : String} {f g : Field} (h : Field.ofKey? key = some f) (hne : f ≠ g)
    (t : Tree) (ms : List (Option String × Tree)) :
    values g ((some key, t) :: ms) = values g ms := by
  rw [values, known_cons_of_key h, List.filterMap_cons, if_neg hne, values]

theorem Named.nil : Named [] := by
  intro m hm
  cases hm

theorem named_cons {m : Option String × Tree} {ms : List (Option String × Tree)} :
    Named (m :: ms) ↔ m.1.isSome = true ∧ Named ms :=
  List.forall_mem_cons

theorem named_treeMembers (ms : List (String × String)) : Named (ms.map treeMember) := by
  intro m hm
  obtain ⟨m', -, rfl⟩ := List.mem_map.1 hm
  rfl

theorem named_append {ms ms' : List (Option String × Tree)} :
    Named (ms ++ ms') ↔ Named ms ∧ Named ms' :=
  List.forall_mem_append

/-! ### How a draft is filled in -/

/-- What a place holds after some values were put into it one by one, each of which had to
find it empty. -/
def Filled {α : Type} (place : Option α) (vs : List (Option α)) (place' : Option α) : Prop :=
  place.toList.map some ++ vs = place'.toList.map some

theorem filled_nil {α : Type} {place place' : Option α} :
    Filled place [] place' ↔ place = place' := by
  cases place <;> cases place' <;> simp [Filled]

theorem filled_cons {α : Type} {place place' v : Option α} {vs : List (Option α)} :
    Filled place (v :: vs) place' ↔ place = none ∧ v.isSome = true ∧ Filled v vs place' := by
  cases place <;> cases place' <;> cases v <;> simp [Filled]

/-- A known field is filled in by its first value, and then by the others. -/
theorem filled_key_iff {key : String} {f : Field} (hkey : Field.ofKey? key = some f) {t : Tree}
    {ms : List (Option String × Tree)} {d d' : Draft} :
    (∀ g, Filled (d.content g) ((values g ((some key, t) :: ms)).map g.content?) (d'.content g)) ↔
      d.content f = none ∧ ∃ v, f.content? t = some v ∧
        ∀ g, Filled ((d.put f v).content g) ((values g ms).map g.content?) (d'.content g) := by
  constructor
  · intro h
    have hf := h f
    rw [values_cons_of_key hkey, List.map_cons, filled_cons] at hf
    obtain ⟨hplace, hsome, hrest⟩ := hf
    obtain ⟨v, hv⟩ := Option.isSome_iff_exists.1 hsome
    refine ⟨hplace, v, hv, ?_⟩
    intro g
    by_cases hgf : g = f
    · -- the field of this member: its value is in the draft now
      subst hgf
      rw [Draft.content_put, ← hv]
      exact hrest
    · -- any other field has the same place and the same values as before
      rw [Draft.content_put_of_ne v hgf, ← values_cons_of_ne hkey (Ne.symm hgf)]
      exact h g
  · rintro ⟨hplace, v, hv, h⟩
    intro g
    have hg := h g
    by_cases hgf : g = f
    · subst hgf
      rw [Draft.content_put] at hg
      rw [values_cons_of_key hkey, List.map_cons, filled_cons, hv]
      exact ⟨hplace, rfl, hg⟩
    · rw [Draft.content_put_of_ne v hgf] at hg
      rw [values_cons_of_ne hkey (Ne.symm hgf)]
      exact hg

/-- **A draft is filled in by all the values of its fields, whatever else the record has.** -/
theorem foldlM_member?_eq_some_iff {ms : List (Option String × Tree)} {d d' : Draft} :
    ms.foldlM Draft.member? d = some d' ↔
      Named ms ∧ ∀ f, Filled (d.content f) ((values f ms).map f.content?) (d'.content f) := by
  induction ms generalizing d with
  | nil =>
    simp only [values_nil, List.map_nil, filled_nil, Named.nil, true_and]
    constructor
    · intro h
      cases h
      exact fun f => rfl
    · intro h
      rw [Draft.eq_of_content h]
      rfl
  | cons m ms ih =>
    obtain ⟨key, t⟩ := m
    have hfold : ((key, t) :: ms).foldlM Draft.member? d =
        (d.member? (key, t)).bind fun d₁ => ms.foldlM Draft.member? d₁ := rfl
    rw [hfold, named_cons]
    cases key with
    | none => simp [Draft.member?]
    | some key =>
      cases hkey : Field.ofKey? key with
      | none =>
        -- an unknown member is passed over, and it gives no field a value
        have hmember : d.member? (some key, t) = some d := by
          simp only [Draft.member?, hkey]
        have hunknown : (some key).bind Field.ofKey? = none := hkey
        have hvalues : ∀ f, values f ((some key, t) :: ms) = values f ms := by
          intro f
          exact values_cons_of_unknown hunknown f t ms
        simp only [hmember, Option.bind_some, hvalues, ih, Option.isSome_some, true_and]
      | some f =>
        -- a known one fills in its field before the others are read
        have hmember : d.member? (some key, t) = d.set? f t := by
          simp only [Draft.member?, hkey]
        simp only [hmember, Option.bind_eq_some_iff, Draft.set?_eq_some_iff, ih,
          filled_key_iff hkey, Option.isSome_some, true_and]
        constructor
        · rintro ⟨d₁, ⟨hplace, v, hv, rfl⟩, hnamed, hfilled⟩
          exact ⟨hnamed, hplace, v, hv, hfilled⟩
        · rintro ⟨hnamed, hplace, v, hv, hfilled⟩
          exact ⟨d.put f v, ⟨hplace, v, hv, rfl⟩, hnamed, hfilled⟩

/-! ### Credentials -/

theorem text?_eq_some_iff {t : Tree} {text : String} :
    text? t = some text ↔ t = .string (some text) := by
  cases t <;> simp [text?]

/-- A required field is filled in by one text. -/
theorem filled_text_iff {vs : List Tree} {text : String} :
    Filled none (vs.map text?) (some text) ↔ vs = [.string (some text)] := by
  show vs.map text? = [some text] ↔ _
  rw [List.map_eq_singleton_iff]
  constructor
  · rintro ⟨t, rfl, ht⟩
    rw [text?_eq_some_iff.1 ht]
  · rintro rfl
    exact ⟨_, rfl, rfl⟩

/-- The reader of a field that may be missing or null, by the reader of its text. -/
def optional? {α : Type} (read? : String → Option α) (t : Tree) : Option (Option α) :=
  match t with
  | .null => some none
  | .string (some text) => (read? text).map some
  | _ => none

theorem optionalText?_eq : optionalText? = optional? some := by
  funext t
  cases t with
  | string text => cases text <;> rfl
  | _ => rfl

theorem optionalInstant?_eq : optionalInstant? = optional? Instant.read? := by
  funext t
  cases t with
  | string text => cases text <;> rfl
  | _ => rfl

/-- A field that may be missing is filled in by at most one value. -/
theorem given_iff {α : Type} {read? : String → Option α} {vs : List Tree} {o : Option α} :
    Given read? vs o ↔ ∃ place, Filled none (vs.map (optional? read?)) place ∧ place.join = o := by
  constructor
  · intro h
    cases h with
    | absent => exact ⟨none, rfl, rfl⟩
    | null => exact ⟨some none, rfl, rfl⟩
    | @text text v read =>
      refine ⟨some (some v), ?_, rfl⟩
      show [(read? text).map some] = [some (some v)]
      rw [read]
      rfl
  · rintro ⟨place, hfilled, rfl⟩
    cases place with
    | none =>
      obtain rfl : vs = [] := List.map_eq_nil_iff.1 hfilled
      exact .absent
    | some o =>
      obtain ⟨t, rfl, ht⟩ := List.map_eq_singleton_iff.1 hfilled
      unfold optional? at ht
      split at ht
      · cases ht
        exact .null
      · obtain ⟨v, hv, rfl⟩ := Option.map_eq_some_iff.1 ht
        exact .text hv
      · cases ht

theorem Draft.finish?_eq_some_iff {d : Draft} {c : Credentials} :
    d.finish? = some c ↔ d.accessToken = some c.accessToken ∧ d.tokenType = some c.tokenType ∧
      d.refreshToken.join = c.refreshToken ∧ d.expiresAt.join = c.expiresAt := by
  obtain ⟨accessToken, tokenType, refreshToken, expiresAt⟩ := d
  obtain ⟨_, _, _, _⟩ := c
  cases accessToken <;> cases tokenType <;> simp [Draft.finish?]

end Record

open Record

/-- **An object records the credentials that its members tell.** -/
theorem Credentials.ofTree?_object_eq_some_iff {ms : List (Option String × Tree)}
    {c : Credentials} : ofTree? (.object ms) = some c ↔ Tells ms c := by
  rw [ofTree?, Option.bind_eq_some_iff]
  simp only [Draft.ofMembers?, foldlM_member?_eq_some_iff, Draft.finish?_eq_some_iff,
    Draft.content_empty]
  constructor
  · rintro ⟨d, ⟨hnamed, hfilled⟩, haccess, htype, hrefresh, hexpiry⟩
    have haccess' : Filled none ((values .accessToken ms).map text?) d.accessToken :=
      hfilled .accessToken
    have htype' : Filled none ((values .tokenType ms).map text?) d.tokenType :=
      hfilled .tokenType
    rw [haccess, filled_text_iff] at haccess'
    rw [htype, filled_text_iff] at htype'
    refine ⟨hnamed, haccess', htype', ?_, ?_⟩
    · rw [given_iff, ← optionalText?_eq]
      exact ⟨d.refreshToken, hfilled .refreshToken, hrefresh⟩
    · rw [given_iff, ← optionalInstant?_eq]
      exact ⟨d.expiresAt, hfilled .expiresAt, hexpiry⟩
  · rintro ⟨hnamed, haccess, htype, hrefresh, hexpiry⟩
    rw [given_iff, ← optionalText?_eq] at hrefresh
    rw [given_iff, ← optionalInstant?_eq] at hexpiry
    obtain ⟨refreshToken, hrefresh, hjoin⟩ := hrefresh
    obtain ⟨expiresAt, hexpiry, hjoin'⟩ := hexpiry
    refine ⟨⟨some c.accessToken, some c.tokenType, refreshToken, expiresAt⟩, ⟨hnamed, ?_⟩, rfl, rfl,
      hjoin, hjoin'⟩
    intro f
    cases f with
    | accessToken => exact filled_text_iff.2 haccess
    | tokenType => exact filled_text_iff.2 htype
    | refreshToken => exact hrefresh
    | expiresAt => exact hexpiry

namespace Record

variable {ms ms' : List (Option String × Tree)} {c : Credentials}

/-! ### Flaws -/

/-- What is wrong with a record that tells no credentials. -/
inductive Flawed (ms : List (Option String × Tree)) : Prop where
  /-- A key is no text. -/
  | key {t : Tree} (unnamed : (none, t) ∈ ms) : Flawed ms
  | missing {f : Field} (required : f = .accessToken ∨ f = .tokenType)
      (absent : values f ms = []) : Flawed ms
  | noText {f : Field} {t : Tree} (required : f = .accessToken ∨ f = .tokenType)
      (given : t ∈ values f ms) (no_text : ∀ text, t ≠ .string (some text)) : Flawed ms
  /-- Under one name or under two. -/
  | twice {f : Field} (given : 2 ≤ (values f ms).length) : Flawed ms
  | refreshToken {t : Tree} (given : t ∈ values .refreshToken ms) (not_null : t ≠ .null)
      (no_text : ∀ text, t ≠ .string (some text)) : Flawed ms
  | expiresAt {t : Tree} (given : t ∈ values .expiresAt ms) (not_null : t ≠ .null)
      (no_instant : ∀ text, t = .string (some text) → Instant.read? text = none) : Flawed ms

theorem Given.length_le {α : Type} {read? : String → Option α} {vs : List Tree} {o : Option α}
    (h : Given read? vs o) : vs.length ≤ 1 := by
  cases h <;> simp

theorem Given.mem {α : Type} {read? : String → Option α} {vs : List Tree} {o : Option α}
    (h : Given read? vs o) {t : Tree} (ht : t ∈ vs) :
    t = .null ∨ ∃ text v, t = .string (some text) ∧ read? text = some v := by
  cases h with
  | absent => cases ht
  | null => exact Or.inl (List.mem_singleton.1 ht)
  | text read => exact Or.inr ⟨_, _, List.mem_singleton.1 ht, read⟩

/-- At most one value, and nothing wrong with it. -/
theorem Given.of_values {α : Type} {read? : String → Option α} {vs : List Tree}
    (hlength : vs.length ≤ 1)
    (hvs : ∀ t ∈ vs, t = .null ∨ ∃ text v, t = .string (some text) ∧ read? text = some v) :
    ∃ o, Given read? vs o := by
  match vs with
  | [] => exact ⟨none, .absent⟩
  | [t] =>
    rcases hvs t (List.mem_singleton_self t) with rfl | ⟨text, v, rfl, hread⟩
    · exact ⟨none, .null⟩
    · exact ⟨some v, .text hread⟩
  | _ :: _ :: _ =>
    simp only [List.length_cons] at hlength
    omega

theorem Tells.required (h : Tells ms c) {f : Field} (hf : f = .accessToken ∨ f = .tokenType) :
    ∃ text, values f ms = [.string (some text)] := by
  rcases hf with rfl | rfl
  · exact ⟨_, h.accessToken⟩
  · exact ⟨_, h.tokenType⟩

theorem Tells.length_le (h : Tells ms c) (f : Field) : (values f ms).length ≤ 1 := by
  cases f with
  | accessToken => rw [h.accessToken]; exact Nat.le_refl 1
  | tokenType => rw [h.tokenType]; exact Nat.le_refl 1
  | refreshToken => exact h.refreshToken.length_le
  | expiresAt => exact h.expiresAt.length_le

theorem Tells.not_flawed (h : Tells ms c) : ¬ Flawed ms := by
  intro hflaw
  cases hflaw with
  | key unnamed => cases h.named _ unnamed
  | missing required absent =>
    obtain ⟨text, hvalues⟩ := h.required required
    rw [hvalues] at absent
    cases absent
  | noText required given no_text =>
    obtain ⟨text, hvalues⟩ := h.required required
    rw [hvalues] at given
    exact no_text text (List.mem_singleton.1 given)
  | @twice f given =>
    have := h.length_le f
    omega
  | refreshToken given not_null no_text =>
    rcases h.refreshToken.mem given with hnull | ⟨text, v, htext, -⟩
    · exact not_null hnull
    · exact no_text text htext
  | expiresAt given not_null no_instant =>
    rcases h.expiresAt.mem given with hnull | ⟨text, v, htext, hread⟩
    · exact not_null hnull
    · rw [no_instant text htext] at hread
      cases hread

theorem length_le_of_not_flawed (h : ¬ Flawed ms) (f : Field) : (values f ms).length ≤ 1 := by
  apply Nat.le_of_not_lt
  intro htwice
  exact h (.twice htwice)

theorem required_of_not_flawed (h : ¬ Flawed ms) {f : Field}
    (hf : f = .accessToken ∨ f = .tokenType) : ∃ text, values f ms = [.string (some text)] := by
  have hlength := length_le_of_not_flawed h f
  match hvalues : values f ms with
  | [] => exact absurd (.missing hf hvalues) h
  | [t] =>
    cases htext : text? t with
    | some text => exact ⟨text, by rw [text?_eq_some_iff.1 htext]⟩
    | none =>
      exfalso
      apply h
      apply Flawed.noText hf (t := t)
      · rw [hvalues]
        exact List.mem_singleton_self t
      · rintro text rfl
        cases htext
  | _ :: _ :: _ =>
    rw [hvalues, List.length_cons, List.length_cons] at hlength
    omega

/-- A record without a flaw tells credentials. -/
theorem exists_tells_of_not_flawed (h : ¬ Flawed ms) : ∃ c, Tells ms c := by
  obtain ⟨accessToken, haccess⟩ := required_of_not_flawed h (Or.inl rfl)
  obtain ⟨tokenType, htype⟩ := required_of_not_flawed h (Or.inr rfl)
  obtain ⟨refreshToken, hrefresh⟩ : ∃ o, Given some (values .refreshToken ms) o := by
    apply Given.of_values (length_le_of_not_flawed h .refreshToken)
    intro t ht
    apply Classical.byContradiction
    intro hbad
    apply h
    apply Flawed.refreshToken ht
    · intro hnull
      exact hbad (Or.inl hnull)
    · intro text htext
      exact hbad (Or.inr ⟨text, text, htext, rfl⟩)
  obtain ⟨expiresAt, hexpiry⟩ : ∃ o, Given Instant.read? (values .expiresAt ms) o := by
    apply Given.of_values (length_le_of_not_flawed h .expiresAt)
    intro t ht
    apply Classical.byContradiction
    intro hbad
    apply h
    apply Flawed.expiresAt ht
    · intro hnull
      exact hbad (Or.inl hnull)
    · intro text htext
      cases hread : Instant.read? text with
      | none => rfl
      | some v => exact absurd (Or.inr ⟨text, v, htext, hread⟩) hbad
  refine ⟨⟨accessToken, tokenType, refreshToken, expiresAt⟩, ?_, haccess, htype, hrefresh, hexpiry⟩
  intro m hm
  obtain ⟨key, t⟩ := m
  cases key with
  | none => exact absurd (.key hm) h
  | some key => rfl

/-! ### Other ways to write a record -/

/-- Another way to write a record. -/
inductive Restated : List (Option String × Tree) → List (Option String × Tree) → Prop where
  | reordered {ms ms' : List (Option String × Tree)} (perm : ms.Perm ms') : Restated ms ms'
  /-- With one more member that is not known. -/
  | inserted (before after : List (Option String × Tree)) {key : String} (t : Tree)
      (unknown : Field.ofKey? key = none) :
      Restated (before ++ after) (before ++ (some key, t) :: after)
  | renamed (before after : List (Option String × Tree)) (t : Tree) :
      Restated (before ++ (some "tokenType", t) :: after) (before ++ (some "type", t) :: after)
  /-- Without a null. -/
  | leftOut (before after : List (Option String × Tree)) {key : String}
      (optional : key = "refreshToken" ∨ key = "expiresAt") :
      Restated (before ++ (some key, .null) :: after) (before ++ after)
  | trans {ms₁ ms₂ ms₃ : List (Option String × Tree)} (first : Restated ms₁ ms₂)
      (second : Restated ms₂ ms₃) : Restated ms₁ ms₃

/-- **Only the known fields count, in any order.** -/
theorem Tells.of_known (h : Tells ms c) (hnamed : Named ms')
    (hknown : (known ms).Perm (known ms')) : Tells ms' c := by
  -- at most one value is given to a field, so their order cannot matter
  have hvalues : ∀ f, values f ms' = values f ms := by
    intro f
    have hperm : (values f ms).Perm (values f ms') := hknown.filterMap _
    exact eq_of_perm_of_length_le_one hperm (h.length_le f)
  refine ⟨hnamed, ?_, ?_, ?_, ?_⟩
  · rw [hvalues]
    exact h.accessToken
  · rw [hvalues]
    exact h.tokenType
  · rw [hvalues]
    exact h.refreshToken
  · rw [hvalues]
    exact h.expiresAt

theorem named_insert {before after : List (Option String × Tree)} {key : String} {t : Tree} :
    Named (before ++ (some key, t) :: after) ↔ Named (before ++ after) := by
  simp [named_append, named_cons]

/-- A member does not matter to another field. -/
theorem values_insert_of_ne {before after : List (Option String × Tree)} {key : String}
    {f g : Field} (hkey : Field.ofKey? key = some f) (hne : f ≠ g) (t : Tree) :
    values g (before ++ (some key, t) :: after) = values g (before ++ after) := by
  rw [values_append, values_cons_of_ne hkey hne, ← values_append]

/-- If a field that may be missing is null, it may as well be missing. -/
theorem Given.without_null {α : Type} {read? : String → Option α} {f g : Field} {key : String}
    (hkey : Field.ofKey? key = some f) {before after : List (Option String × Tree)} {o : Option α}
    (h : Given read? (values g (before ++ (some key, .null) :: after)) o) :
    Given read? (values g (before ++ after)) o := by
  by_cases hne : f = g
  · subst hne
    have hlength := h.length_le
    rw [values_append, values_cons_of_key hkey] at h hlength
    rw [List.length_append, List.length_cons] at hlength
    -- the null is the only value
    have hbefore : values f before = [] := List.length_eq_zero_iff.1 (by omega)
    have hafter : values f after = [] := List.length_eq_zero_iff.1 (by omega)
    rw [hbefore, hafter, List.nil_append] at h
    rw [values_append, hbefore, hafter]
    cases h
    exact .absent
  · rw [values_insert_of_ne hkey hne] at h
    exact h

/-- **A record that is written in another way tells the same.** -/
theorem Restated.tells (h : Restated ms ms') (htells : Tells ms c) : Tells ms' c := by
  induction h with
  | reordered perm =>
    apply htells.of_known
    · intro m hm
      exact htells.named m (perm.mem_iff.2 hm)
    · exact perm.filterMap _
  | inserted before after t unknown =>
    apply htells.of_known (named_insert.2 htells.named)
    rw [known_append, known_append, known_cons_of_unknown]
    exact unknown
  | renamed before after t =>
    apply htells.of_known (named_insert.2 (named_insert.1 htells.named))
    have htype : Field.ofKey? "type" = some .tokenType := by decide
    rw [known_append, known_append, known_cons_of_key ofKey?_tokenType, known_cons_of_key htype]
  | @leftOut before after key optional =>
    obtain ⟨f, hkey, hf⟩ : ∃ f, Field.ofKey? key = some f ∧
        (f = .refreshToken ∨ f = .expiresAt) := by
      rcases optional with rfl | rfl
      · exact ⟨.refreshToken, ofKey?_refreshToken, Or.inl rfl⟩
      · exact ⟨.expiresAt, ofKey?_expiresAt, Or.inr rfl⟩
    -- the null is not a value of a required field
    have hrequired : ∀ g, g = .accessToken ∨ g = .tokenType → f ≠ g := by
      rintro g (rfl | rfl) <;> rcases hf with rfl | rfl <;> decide
    refine ⟨named_insert.1 htells.named, ?_, ?_, htells.refreshToken.without_null hkey,
      htells.expiresAt.without_null hkey⟩
    · rw [← values_insert_of_ne hkey (hrequired _ (Or.inl rfl))]
      exact htells.accessToken
    · rw [← values_insert_of_ne hkey (hrequired _ (Or.inr rfl))]
      exact htells.tokenType
  | trans first second ih ih' => exact ih' (ih htells)

end Record

namespace Credentials

open Record

variable {ms ms' : List (Option String × Tree)} {gs gs' : List Glyph} {c : Credentials}

/-! ### Texts -/

/-- A text of an object records what the members tell, however it is laid out. -/
theorem readRecord?_of_isText (h : (Tree.object ms).IsText gs) :
    readRecord? gs = ofTree? (.object ms) := by
  rw [readRecord?, Tree.read?_eq_some_iff.2 h, Option.bind_some]

theorem ofTree?_object_eq_none_iff : ofTree? (.object ms) = none ↔ Flawed ms := by
  constructor
  · intro h
    apply Classical.byContradiction
    intro hflaw
    obtain ⟨c, htells⟩ := exists_tells_of_not_flawed hflaw
    rw [ofTree?_object_eq_some_iff.2 htells] at h
    cases h
  · intro hflaw
    cases htree : ofTree? (.object ms) with
    | none => rfl
    | some c => exact absurd hflaw (ofTree?_object_eq_some_iff.1 htree).not_flawed

/-- Records with the same known fields are read alike. -/
theorem ofTree?_object_congr (hnamed : Named ms ↔ Named ms')
    (hknown : (known ms).Perm (known ms')) :
    ofTree? (.object ms') = ofTree? (.object ms) := by
  apply Option.ext
  intro c
  rw [ofTree?_object_eq_some_iff, ofTree?_object_eq_some_iff]
  constructor
  · intro h
    exact h.of_known (hnamed.2 h.named) hknown.symm
  · intro h
    exact h.of_known (hnamed.1 h.named) hknown

/-- The members of the record of some credentials in the form in which a service issues it. -/
def issuedMembers (c : Credentials) : List (String × String) :=
  [("accessToken", c.accessToken), ("type", c.tokenType)] ++
    (c.refreshToken.map (("refreshToken", ·))).toList ++
    (c.expiresAt.map (("expiresAt", ·.stamp))).toList

theorem isText_record (c : Credentials) :
    (Tree.object (c.recordMembers.map treeMember)).IsText (Text.glyphsOf c.record) := by
  rw [glyphsOf_record]
  exact Tree.isText_writeObject c.recordMembers

/-- The record of some credentials tells them. -/
theorem tells_recordMembers (c : Credentials) : Tells (c.recordMembers.map treeMember) c := by
  rw [← ofTree?_object_eq_some_iff, ← readRecord?_of_isText (isText_record c)]
  exact readRecord?_record c

theorem tells_issuedMembers (c : Credentials) : Tells (c.issuedMembers.map treeMember) c := by
  have hrenamed : Restated (c.recordMembers.map treeMember) (c.issuedMembers.map treeMember) :=
    .renamed [treeMember ("accessToken", c.accessToken)] _ (.string (some c.tokenType))
  exact hrenamed.tells (tells_recordMembers c)

/-- **A record is read by its known fields.**  However a text of an object is laid out, it
records the credentials that its members tell, and only if all keys are texts does it record
any.  The known fields decide: members in another order, unknown members, the other name of
the type and a null that is left out change nothing.  A text fails to record credentials
exactly if the record has a flaw, and with anything but blanks behind the object it fails. -/
theorem readRecord?_by_fields (h : (Tree.object ms).IsText gs) :
    (∀ c, readRecord? gs = some c ↔ Tells ms c) ∧
    (∀ ms' gs', (Tree.object ms').IsText gs' → (Named ms ↔ Named ms') →
      (known ms).Perm (known ms') → readRecord? gs' = readRecord? gs) ∧
    (∀ ms' gs' c, (Tree.object ms').IsText gs' → Restated ms ms' → readRecord? gs = some c →
      readRecord? gs' = some c) ∧
    (readRecord? gs = none ↔ Flawed ms) ∧
    (∀ extra, (∃ g ∈ extra, g.any Json.isBlank = false) → readRecord? (gs ++ extra) = none) ∧
    (∀ c gs', (Tree.object (c.issuedMembers.map treeMember)).IsText gs' →
      readRecord? gs' = some c ∧ readRecord? (Text.glyphsOf c.record) = some c) := by
  rw [readRecord?_of_isText h]
  refine ⟨fun c => ofTree?_object_eq_some_iff, ?_, ?_, ofTree?_object_eq_none_iff, ?_, ?_⟩
  · intro ms' gs' h' hnamed hknown
    rw [readRecord?_of_isText h', ofTree?_object_congr hnamed hknown]
  · intro ms' gs' c h' hrestated hread
    rw [readRecord?_of_isText h', ofTree?_object_eq_some_iff]
    exact hrestated.tells (ofTree?_object_eq_some_iff.1 hread)
  · intro extra hextra
    rw [readRecord?, Tree.read?_object_append h hextra, Option.bind_none]
  · intro c gs' h'
    refine ⟨?_, readRecord?_record c⟩
    rw [readRecord?_of_isText h', ofTree?_object_eq_some_iff]
    exact tells_issuedMembers c

/-- The form of a service is read, with a note in front that looks like the end of a record. -/
theorem readRecord?_by_fields_issued :
    readRecord? (Json.sound (Json.writeObject
      [("note", "]\x7d"), ("type", "Bearer"), ("accessToken", "A1")])) =
        some ⟨"A1", "Bearer", none, none⟩ ∧
    readRecord? (Json.sound (Json.writeObject
      [("note", "]\x7d"), ("type", "Bearer"), ("accessToken", "A1")]) ++ [some ']']) = none := by
  obtain ⟨hpair, -, -, -, hbehind, -⟩ := readRecord?_by_fields (Tree.isText_writeObject
    [("note", "]\x7d"), ("type", "Bearer"), ("accessToken", "A1")])
  constructor
  · apply (hpair _).2
    exact ⟨named_treeMembers _, rfl, rfl, .absent, .absent⟩
  · apply hbehind
    exact ⟨some ']', List.mem_singleton_self _, rfl⟩

end Credentials

/-! ### A key that is no text -/

/-- Half a surrogate pair stands for no text. -/
theorem Json.Token.Spelled.halfPair : Json.Token.Spelled (.string none)
    [some '"', some '\\', some 'u', some 'd', some '8', some '0', some '0', some '"'] := by
  have hdigits : Json.hexUnit? (some 'd') (some '8') (some '0') (some '0') = some 0xd800 := rfl
  have hpieces : Json.PiecesSpelled [.unit 0xd800] _ := .unit hdigits .nil
  exact .string hpieces

/-- A record is spoiled by one more member that names no known field, if its key is half a
surrogate pair. -/
theorem Credentials.readRecord?_halfPair_key :
    readRecord? (Text.glyphsOf "\x7b\"accessToken\":\"a\",\"tokenType\":\"b\"\x7d") =
      some ⟨"a", "b", none, none⟩ ∧
    (Tree.object ((none, .null) ::
      [("accessToken", "a"), ("tokenType", "b")].map treeMember)).IsText (Text.glyphsOf
        "\x7b\"\\ud800\":null,\"accessToken\":\"a\",\"tokenType\":\"b\"\x7d") ∧
    Record.known [(none, .null)] = [] ∧
    readRecord? (Text.glyphsOf
      "\x7b\"\\ud800\":null,\"accessToken\":\"a\",\"tokenType\":\"b\"\x7d") = none := by
  have hrest := Json.layout_members [("accessToken", "a"), ("tokenType", "b")]
  have hvalue := (hrest.behind .comma (by simp)).behind .null (by simp)
  have hmember := (hvalue.behind .colon (by simp)).behind .halfPair (by simp)
  have htext : (Tree.object ((none, .null) ::
      [("accessToken", "a"), ("tokenType", "b")].map treeMember)).IsText (Text.glyphsOf
        "\x7b\"\\ud800\":null,\"accessToken\":\"a\",\"tokenType\":\"b\"\x7d") :=
    hmember.behind .openBrace (by simp)
  refine ⟨readRecord?_record ⟨"a", "b", none, none⟩, htext, rfl, ?_⟩
  rw [readRecord?_of_isText htext, ofTree?_object_eq_none_iff]
  exact .key List.mem_cons_self

end SessionKeeper
