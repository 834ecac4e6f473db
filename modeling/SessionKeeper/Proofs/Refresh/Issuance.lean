import SessionKeeper.Proofs.Http.Cookie
import SessionKeeper.Refresh.Issuance

/-! # Refresh tokens that are issued and sent

A response issues a refresh token by a cookie, or else in its body (`Issues`).  It may also
issue none; then the token that was issued last is still the one to use (`LastIssued`).

The request that replaces credentials brings their refresh token back in a cookie of the
same name (`RefreshEndpoint.request_of_isFieldValue`).

Core Lean 4 only; no Mathlib. -/

namespace SessionKeeper

/-! ### What a response issues -/

/-- A response issues a refresh token, or issues none.  A cookie takes the place of a token
in the body. -/
inductive Issues (name : String) (r : Http.Response) : Option String → Prop where
  | cookie {token : String} (sets : r.SetsCookie name token) : Issues name r (some token)
  | body {record : Credentials} (unset : ∀ token, ¬ r.SetsCookie name token)
      (body : Credentials.readRecord? (Text.glyphs r.body) = some record) :
      Issues name r record.refreshToken

/-- **The credentials that a response issues have the refresh token that it issues.** -/
theorem Issues.of_issuedBy {name : String} {r : Http.Response} {x : Credentials}
    (h : Credentials.issuedBy r name = .ok x) : Issues name r x.refreshToken := by
  unfold Credentials.issuedBy at h
  split at h
  · cases h
  · rename_i record hbody
    split at h
    · cases h
    · cases h
      cases hcookie : r.cookie? name with
      | some token => exact .cookie (Http.Response.cookie?_eq_some_iff.mp hcookie)
      | none => exact .body (Http.Response.cookie?_eq_none_iff.mp hcookie) hbody

theorem Issues.unique {name : String} {r : Http.Response} {token token' : Option String}
    (h : Issues name r token) (h' : Issues name r token') : token = token' := by
  cases h with
  | cookie sets =>
    cases h' with
    | cookie sets' =>
      rw [← Http.Response.cookie?_eq_some_iff] at sets sets'
      exact sets.symm.trans sets'
    | body unset body => exact absurd sets (unset _)
  | body unset body =>
    cases h' with
    | cookie sets => exact absurd sets (unset _)
    | body unset' body' =>
      cases body.symm.trans body'
      rfl

/-- The refresh token that some responses, the newest first, have issued last. -/
inductive LastIssued (name : String) : List Http.Response → Option String → Prop where
  /-- None was ever issued. -/
  | never : LastIssued name [] none
  | now {r : Http.Response} {rs : List Http.Response} {token : String}
      (issues : Issues name r (some token)) : LastIssued name (r :: rs) (some token)
  | before {r : Http.Response} {rs : List Http.Response} {token : Option String}
      (issues : Issues name r none) (last : LastIssued name rs token) :
      LastIssued name (r :: rs) token

namespace LastIssued

variable {name : String} {r : Http.Response} {rs : List Http.Response}
  {token token' : Option String}

/-- A new token takes the place of the last one; if there is none, the last one stays. -/
theorem cons (hissues : Issues name r token) (hlast : LastIssued name rs token') :
    LastIssued name (r :: rs) (token <|> token') := by
  cases token with
  | some new => exact .now hissues
  | none => exact .before hissues hlast

theorem unique (h : LastIssued name rs token) (h' : LastIssued name rs token') :
    token = token' := by
  induction h with
  | never =>
    cases h'
    rfl
  | now issues =>
    cases h' with
    | now issues' => exact issues.unique issues'
    | before issues' last => cases issues.unique issues'
  | before issues last ih =>
    cases h' with
    | now issues' => cases issues.unique issues'
    | before issues' last' => exact ih last'

end LastIssued

/-! ### The request -/

/-- The request that brings a refresh token back, if there is one.  It has no other
headers. -/
def Http.Request.refreshWith (path name : String) (token : Option String) : Http.Request :=
  { method := "POST"
    path
    headers := ⟨(token.map fun token => (Http.cookie, name ++ "=" ++ token)).toList⟩
    body := some (.object [])
    kind := .refresh }

/-- **A refresh token that can stand in a cookie is sent in a cookie.** -/
theorem RefreshEndpoint.request_of_isFieldValue (e : RefreshEndpoint) {x : Credentials}
    (h : ∀ token, x.refreshToken = some token →
      Http.isFieldValue (e.cookieName ++ "=" ++ token) = true) :
    e.request x = .ok (.refreshWith e.path e.cookieName x.refreshToken) := by
  have hname : Http.headerName? Http.cookie = some Http.cookie := by decide +kernel
  unfold request
  cases htoken : x.refreshToken with
  | none => rfl
  | some token =>
    simp only [Http.Request.withCookie, Http.Request.withHeader, hname, h token htoken, if_true]
    rfl

end SessionKeeper
