import SessionKeeper.Credential.Store
import SessionKeeper.Proofs.Json.Trees
import SessionKeeper.Proofs.Time.Stamp

/-! # The record of some credentials is read as those credentials

Credentials are written as an object of texts, and an expiry as its stamp.  Nothing is
lost on the way back (`Credentials.readRecord?_record`): the tokens may have any
characters, and the expiry may be any instant.

A kept record counts only if its access token is not empty
(`Credentials.ofKept?_record_eq`).

Core Lean 4 only; no Mathlib. -/

namespace SessionKeeper

open Json (treeMember)

namespace Record

/-! ### Fields -/

theorem ofKey?_accessToken : Field.ofKey? "accessToken" = some .accessToken := by decide

theorem ofKey?_tokenType : Field.ofKey? "tokenType" = some .tokenType := by decide

theorem ofKey?_refreshToken : Field.ofKey? "refreshToken" = some .refreshToken := by decide

theorem ofKey?_expiresAt : Field.ofKey? "expiresAt" = some .expiresAt := by decide

/-- A member whose key names a field fills in that field. -/
theorem Draft.member?_of_key {key : String} {f : Field} (h : Field.ofKey? key = some f) (d : Draft)
    (text : String) : d.member? (treeMember (key, text)) = d.set? f (.string (some text)) := by
  simp only [member?, treeMember, h]

/-- The draft of a record that was written has all that the credentials have. -/
theorem Draft.ofMembers?_recordMembers (c : Credentials) :
    Draft.ofMembers? (c.recordMembers.map treeMember) =
      some ⟨some c.accessToken, some c.tokenType, c.refreshToken.map some,
        c.expiresAt.map some⟩ := by
  obtain ⟨accessToken, tokenType, refreshToken, expiresAt⟩ := c
  -- the two fields that may be missing stand last
  cases refreshToken <;> cases expiresAt <;>
    simp [ofMembers?, Credentials.recordMembers, member?_of_key ofKey?_accessToken,
      member?_of_key ofKey?_tokenType, member?_of_key ofKey?_refreshToken,
      member?_of_key ofKey?_expiresAt, set?, text?, optionalText?, optionalInstant?,
      Time.Instant.read?_stamp]

end Record

/-! ### Records -/

namespace Credentials

/-- The record of some credentials is the text of an object. -/
theorem glyphsOf_record (c : Credentials) :
    Text.glyphsOf c.record = Json.sound (Json.writeObject c.recordMembers) := by
  rw [Text.glyphsOf, record, String.toList_ofList]
  rfl

/-- **The record of some credentials is read as those credentials.** -/
theorem readRecord?_record (c : Credentials) :
    readRecord? (Text.glyphsOf c.record) = some c := by
  have hdraft := Record.Draft.ofMembers?_recordMembers c
  rw [readRecord?, glyphsOf_record, Json.Tree.read?_writeObject, Option.bind_some, ofTree?, hdraft,
    Option.bind_some]
  obtain ⟨accessToken, tokenType, refreshToken, expiresAt⟩ := c
  cases refreshToken <;> cases expiresAt <;> rfl

/-- As the record of a session it counts unless the access token is empty. -/
theorem ofKept?_record_eq (c : Credentials) :
    ofKept? c.record = if c.accessToken = "" then none else some c := by
  simp only [ofKept?, readRecord?_record, String.isEmpty_iff]

theorem ofKept?_record {c : Credentials} (h : c.accessToken ≠ "") :
    ofKept? c.record = some c := by
  rw [ofKept?_record_eq, if_neg h]

/-- What counts as a record has an access token. -/
theorem accessToken_of_ofKept? {text : String} {c : Credentials} (h : ofKept? text = some c) :
    c.accessToken ≠ "" := by
  unfold ofKept? at h
  split at h
  · split at h
    · cases h
    · rename_i hsome
      cases h
      simpa using hsome
  · cases h

end Credentials

end SessionKeeper
