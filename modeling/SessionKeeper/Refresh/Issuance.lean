import SessionKeeper.Credential.Record
import SessionKeeper.Http.Failure

/-! # Issued credentials

A service issues credentials in the answer to a sign-in and to a refresh.
They are the record in the body; a refresh token that travels as a cookie
takes the place of one in the body.

Core Lean 4 only; no Mathlib. -/

namespace SessionKeeper

/-- The credentials that a response issues. -/
def Credentials.issuedBy (r : Http.Response) (cookieName : String) :
    Except CallError Credentials :=
  match Credentials.readRecord? (Text.glyphs r.body) with
  | none => .error (.internal .issuance)
  | some c =>
    if c.accessToken.isEmpty then .error (.internal .emptyIssuance)
    else .ok { c with refreshToken := r.cookie? cookieName <|> c.refreshToken }

/-! ## The refresh endpoint -/

/-- Where credentials are replaced, and the cookie that carries the refresh
token there. -/
structure RefreshEndpoint where
  path : String
  cookieName : String
  deriving DecidableEq, Repr

namespace RefreshEndpoint

/-- The request that replaces some credentials. -/
def request (e : RefreshEndpoint) (current : Credentials) : Except CallError Http.Request :=
  match current.refreshToken with
  | none => .ok (.refresh e.path)
  | some token =>
    match (Http.Request.refresh e.path).withCookie e.cookieName token with
    | .ok r => .ok r
    | .error error => .error (.internal (.build error))

/-- What the answer to that request comes to. -/
def outcome (e : RefreshEndpoint) (answer : Except Http.TransportFault Http.Response) :
    Except CallError Credentials :=
  match answer with
  | .error fault => .error (.transport fault)
  | .ok r => if r.isSuccess then Credentials.issuedBy r e.cookieName else .error (.ofResponse r)

end RefreshEndpoint

end SessionKeeper
