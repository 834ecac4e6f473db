import SessionKeeper.CommandLine.Program
import SessionKeeper.Proofs.Credential.Record

/-! # What is shown of a session

Of an access token its first bytes are shown, or all of it if it is short
(`ShownOf`).  They can be shown only if a character ends where the bytes do; a token that
is cut in the middle of a character ends the run (`Severed`).

An access token may be any text, so there are records whose session cannot be shown
(`status_crashes_iff`): those with a long token in which no character ends behind the
eighth byte.

Core Lean 4 only; no Mathlib. -/

namespace SessionKeeper.CommandLine

/-! ### The first bytes of a text -/

theorem utf8ByteSize_ofList_cons (c : Char) (cs : List Char) :
    (String.ofList (c :: cs)).utf8ByteSize = c.utf8Size + (String.ofList cs).utf8ByteSize := by
  rw [String.ofList_cons, String.utf8ByteSize_append, String.utf8ByteSize_singleton]

/-- The first bytes are those of a beginning with as many bytes, or of the whole text if it
has no more. -/
theorem firstBytes?_eq_some_iff {n : Nat} {cs shown : List Char} :
    firstBytes? n cs = some shown ↔ ∃ rest, cs = shown ++ rest ∧
      ((String.ofList shown).utf8ByteSize = n ∨
        rest = [] ∧ (String.ofList shown).utf8ByteSize ≤ n) := by
  induction cs generalizing n shown with
  | nil =>
    constructor
    · intro h
      cases h
      exact ⟨[], rfl, Or.inr ⟨rfl, Nat.zero_le n⟩⟩
    · rintro ⟨rest, hsplit, -⟩
      obtain ⟨rfl, -⟩ := List.append_eq_nil_iff.mp hsplit.symm
      rfl
  | cons c cs ih =>
    have hpos : 0 < c.utf8Size := c.utf8Size_pos
    rw [firstBytes?]
    by_cases hzero : n = 0
    · -- no more bytes are wanted
      rw [if_pos hzero]
      constructor
      · intro h
        cases h
        exact ⟨c :: cs, rfl, Or.inl hzero.symm⟩
      · rintro ⟨rest, hsplit, hsize⟩
        cases shown with
        | nil => rfl
        | cons first shown =>
          cases hsplit
          rw [utf8ByteSize_ofList_cons] at hsize
          omega
    rw [if_neg hzero]
    by_cases hlong : n < c.utf8Size
    · -- the character does not end where the bytes do
      rw [if_pos hlong]
      constructor
      · intro h
        cases h
      · rintro ⟨rest, hsplit, hsize⟩
        cases shown with
        | nil =>
          have hrest : rest ≠ [] := by
            intro hnil
            rw [hnil] at hsplit
            cases hsplit
          rcases hsize with hsize | ⟨hnil, -⟩
          · exact absurd hsize.symm hzero
          · exact absurd hnil hrest
        | cons first shown =>
          cases hsplit
          rw [utf8ByteSize_ofList_cons] at hsize
          omega
    rw [if_neg hlong, Option.map_eq_some_iff]
    constructor
    · rintro ⟨shown', hshown, rfl⟩
      obtain ⟨rest, rfl, hsize⟩ := ih.mp hshown
      refine ⟨rest, rfl, ?_⟩
      rw [utf8ByteSize_ofList_cons]
      rcases hsize with hsize | ⟨hnil, hsize⟩
      · left
        omega
      · right
        exact ⟨hnil, by omega⟩
    · rintro ⟨rest, hsplit, hsize⟩
      cases shown with
      | nil =>
        cases hsplit
        rcases hsize with hsize | ⟨hnil, -⟩
        · exact absurd hsize.symm hzero
        · cases hnil
      | cons first shown =>
        cases hsplit
        rw [utf8ByteSize_ofList_cons] at hsize
        refine ⟨shown, ih.mpr ⟨rest, rfl, ?_⟩, rfl⟩
        rcases hsize with hsize | ⟨hnil, hsize⟩
        · left
          omega
        · right
          exact ⟨hnil, by omega⟩

/-- What is shown of a text: its first bytes, or all of it. -/
structure ShownOf (text shown : String) : Prop where
  beginning : ∃ rest, text = shown ++ rest
  size : shown.utf8ByteSize = min shownBytes text.utf8ByteSize

/-- A text is cut in the middle of a character. -/
structure Severed (text : String) : Prop where
  long : shownBytes < text.utf8ByteSize
  /-- No character ends where the bytes do. -/
  uneven : ∀ shown rest, text = shown ++ rest → shown.utf8ByteSize ≠ shownBytes

theorem firstBytes?_eq_some_iff_shownOf {text : String} {shown : List Char} :
    firstBytes? shownBytes text.toList = some shown ↔ ShownOf text (String.ofList shown) := by
  rw [firstBytes?_eq_some_iff]
  constructor
  · rintro ⟨rest, hsplit, hsize⟩
    have htext : text = String.ofList shown ++ String.ofList rest := by
      rw [← String.ofList_append, ← hsplit, String.ofList_toList]
    refine ⟨⟨_, htext⟩, ?_⟩
    have htotal := congrArg String.utf8ByteSize htext
    rw [String.utf8ByteSize_append] at htotal
    rcases hsize with hsize | ⟨hnil, hsize⟩
    · omega
    · rw [hnil, String.ofList_nil, String.utf8ByteSize_empty] at htotal
      omega
  · rintro ⟨⟨rest, htext⟩, hsize⟩
    refine ⟨rest.toList, ?_, ?_⟩
    · rw [htext, String.toList_append, String.toList_ofList]
    have htotal := congrArg String.utf8ByteSize htext
    rw [String.utf8ByteSize_append] at htotal
    by_cases hlong : shownBytes ≤ text.utf8ByteSize
    · left
      omega
    · -- a short text is shown to its end
      right
      have hrest : rest.utf8ByteSize = 0 := by omega
      rw [String.utf8ByteSize_eq_zero_iff.mp hrest]
      exact ⟨rfl, by omega⟩

/-- **A text can be shown unless it is cut in the middle of a character.** -/
theorem firstBytes?_eq_none_iff {text : String} :
    firstBytes? shownBytes text.toList = none ↔ Severed text := by
  constructor
  · intro hnone
    have hno : ∀ shown, ¬ ShownOf text shown := by
      intro shown hshown
      rw [← String.ofList_toList (s := shown), ← firstBytes?_eq_some_iff_shownOf, hnone] at hshown
      cases hshown
    constructor
    · -- a short text would be shown as a whole
      apply Nat.lt_of_not_le
      intro hshort
      apply hno text
      exact ⟨⟨"", String.append_empty.symm⟩, by omega⟩
    · intro shown rest htext hsize
      apply hno shown
      have htotal := congrArg String.utf8ByteSize htext
      rw [String.utf8ByteSize_append] at htotal
      exact ⟨⟨rest, htext⟩, by omega⟩
  · rintro ⟨hlong, huneven⟩
    rw [Option.eq_none_iff_forall_ne_some]
    intro shown hsome
    obtain ⟨⟨rest, htext⟩, hsize⟩ := firstBytes?_eq_some_iff_shownOf.mp hsome
    apply huneven _ rest htext
    omega

/-! ### The status of a session -/

/-- The lines on some credentials, of whose access token a part is shown. -/
def tokenLines (c : Credentials) (shown : String) : String :=
  "  Token:       " ++ c.tokenType ++ " " ++ shown ++ "...\n" ++
    "  Refreshable: " ++ (if c.refreshToken.isSome then "yes" else "no") ++ "\n" ++
    match c.expiresAt with
    | some e => "  Expires:     " ++ String.ofList (e.write "+00:00".toList) ++ "\n"
    | none => ""

theorem credentialLines?_eq (c : Credentials) :
    credentialLines? c = (firstBytes? shownBytes c.accessToken.toList).map fun shown =>
      tokenLines c (String.ofList shown) := by
  unfold credentialLines?
  cases firstBytes? shownBytes c.accessToken.toList <;> rfl

/-- **A session can be shown unless its access token is cut in the middle of a character.**
Restore a session from any store and show it.  The run crashes exactly if the store holds an
access token of more than eight bytes, no beginning of which has just eight.  Then it has
written nothing but the state of the session.  Otherwise it ends well, and what it has
written of the access token, if there is one, is a beginning of it with eight bytes, or all
of it if it has no more. -/
theorem status_crashes_iff (store : Store) :
    let s := Session.restore store
    ((showStatus s).exit = crashCode ↔ ∃ c, store.load = some c ∧ Severed c.accessToken) ∧
    (store.load = none ∧ showStatus s = { output := stateLine s } ∨
      (∃ c, store.load = some c ∧ Severed c.accessToken ∧
        showStatus s = { output := stateLine s, exit := crashCode }) ∨
      ∃ c shown, store.load = some c ∧ ShownOf c.accessToken shown ∧
        showStatus s = { output := stateLine s ++ tokenLines c shown }) := by
  intro s
  have hcredentials : s.credentials? = store.load := Session.credentials?_restore store
  unfold showStatus
  rw [hcredentials]
  cases hload : store.load with
  | none =>
    refine ⟨?_, Or.inl ⟨rfl, rfl⟩⟩
    constructor
    · intro hcrash
      have hzero : 0 = crashCode := hcrash
      cases hzero
    · rintro ⟨c, hc, -⟩
      cases hc
  | some c =>
    dsimp only
    rw [credentialLines?_eq]
    cases hshown : firstBytes? shownBytes c.accessToken.toList with
    | none =>
      have hsevered : Severed c.accessToken := firstBytes?_eq_none_iff.mp hshown
      refine ⟨?_, Or.inr (Or.inl ⟨c, rfl, hsevered, rfl⟩)⟩
      constructor
      · intro _
        exact ⟨c, rfl, hsevered⟩
      · intro _
        rfl
    | some shown =>
      have hpart : ShownOf c.accessToken (String.ofList shown) :=
        firstBytes?_eq_some_iff_shownOf.mp hshown
      refine ⟨?_, Or.inr (Or.inr ⟨c, _, rfl, hpart, rfl⟩)⟩
      constructor
      · intro hcrash
        have hzero : 0 = crashCode := hcrash
        cases hzero
      · rintro ⟨c', hc, hsevered⟩
        cases hc
        rw [firstBytes?_eq_none_iff.mpr hsevered] at hshown
        cases hshown

/-- The eighth byte of this token begins a character of two bytes. -/
theorem status_crashes_within_character :
    let c : Credentials := { accessToken := "1234567\u00e9", tokenType := "Bearer" }
    let store : Store := ⟨.database (.table [(Database.sessionKey, .text c.record)]), false⟩
    store.load = some c ∧ showStatus (Session.restore store) =
      { output := "  Session:     logged in (gen-1)\n", exit := crashCode } := by
  intro c store
  have hload : store.load = some c := by
    show Credentials.ofKept? c.record = some c
    exact Credentials.ofKept?_record (by decide)
  have hrestore : Session.restore store =
      { state := .loggedIn .first, current := some ⟨.first, c⟩, lastIssued := some .first,
        prompted := false, store, watch := ⟨.loggedIn .first, 0⟩ } := by
    unfold Session.restore
    rw [hload]
  refine ⟨hload, ?_⟩
  rw [hrestore]
  decide

end SessionKeeper.CommandLine
