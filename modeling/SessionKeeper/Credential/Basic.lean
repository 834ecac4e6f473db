import SessionKeeper.Time.Instant

/-! # Credentials

What a signed-in session holds: an access token with its type, sometimes a
refresh token, sometimes an expiry.

Core Lean 4 only; no Mathlib. -/

namespace SessionKeeper

open Time (Instant Span)

/-- The credentials of a session. -/
structure Credentials where
  accessToken : String
  tokenType : String
  refreshToken : Option String := none
  expiresAt : Option Instant := none
  deriving DecidableEq

namespace Credentials

/-- The value of the authorization header that carries these credentials. -/
def authorization (c : Credentials) : String :=
  c.tokenType ++ " " ++ c.accessToken

/-- Whether the credentials expire at most `window` after `now`.  Credentials
without an expiry never do.  A window that leaves the calendar covers every
expiry. -/
def expiresWithin (c : Credentials) (now : Instant) (window : Span) : Bool :=
  match c.expiresAt with
  | none => false
  | some expiry =>
    match now.add? window with
    | none => true
    | some limit => expiry.notAfter limit

/-- The credentials, with the refresh token of older ones if they bring none
of their own. -/
def keepRefreshToken (c : Credentials) (older : Option Credentials) : Credentials :=
  { c with refreshToken := c.refreshToken <|> older.bind (·.refreshToken) }

end Credentials

end SessionKeeper
