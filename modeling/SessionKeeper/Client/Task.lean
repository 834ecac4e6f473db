import SessionKeeper.Refresh.Issuance
import SessionKeeper.Refresh.Traffic

/-! # Tasks of a client

A task is one request that an application has handed to a client, or one
sign-in.  It sends its request at most twice, and between that it may have to
wait for a refresh.

Core Lean 4 only; no Mathlib. -/

namespace SessionKeeper.Client

/-- The settings of a client. -/
structure Options where
  /-- Where to sign in. -/
  signInPath : String := "/v1/api/auth/signin"
  /-- Where to replace credentials. -/
  refreshPath : String := "/v1/api/auth/refresh"
  /-- The cookie that carries the refresh token. -/
  refreshCookieName : String := "refreshToken"
  /-- Replace credentials that expire within so many seconds before they are
  used; 0 means never. -/
  refreshThreshold : Nat := 0
  deriving DecidableEq, Repr

namespace Options

/-- Where credentials are replaced. -/
def endpoint (o : Options) : RefreshEndpoint :=
  ⟨o.refreshPath, o.refreshCookieName⟩

/-- The window in which credentials are replaced ahead of time.  A threshold
that is too long for a span stands for the longest one. -/
def window? (o : Options) : Option Time.Span :=
  if o.refreshThreshold = 0 then none else some (Time.Span.ofSeconds o.refreshThreshold)

end Options

/-- What a task was started for. -/
inductive Purpose where
  /-- The response. -/
  | exchange
  /-- A new session. -/
  | signIn
  deriving DecidableEq, Repr

/-- Why a task waits for a refresh. -/
inductive Occasion where
  /-- Its credentials are about to expire. -/
  | ahead
  /-- Its credentials were refused. -/
  | refused
  deriving DecidableEq, Repr

/-- How far a task has come. -/
inductive Stage where
  | starting
  /-- It waits for credentials newer than `refused`; after a superseded
  flight it has to ask again. -/
  | waiting (occasion : Occasion) (refused : Generation) (superseded : Bool)
  /-- Its request was sent, with the credentials it carried. -/
  | sent (used : Option Snapshot)
  /-- Its request was sent once more. -/
  | resent
  /-- It has ended, or was aborted. -/
  | done

/-- A task. -/
structure Task where
  purpose : Purpose
  request : Except Http.BuildError Http.Request
  stage : Stage := .starting

/-- How a task ends. -/
inductive Outcome where
  | response (r : Http.Response)
  | signedIn (g : Generation)
  | failed (e : CallError)
  /-- There was no request to send. -/
  | unbuildable (e : Http.BuildError)
  /-- The transport broke down under it. -/
  | crashed

/-- What comes back for a request. -/
inductive Reply where
  | response (r : Http.Response)
  | fault (f : Http.TransportFault)
  /-- The transport breaks down. -/
  | crash
  deriving DecidableEq

/-- Who has sent a request: a task, or the flight of a generation. -/
inductive Owner where
  | task (n : Nat)
  | flight (g : Generation)
  deriving DecidableEq, Repr

/-- A request on its way. -/
structure Sent where
  owner : Owner
  request : Http.Request

/-- Something that goes on without waiting. -/
inductive Step where
  /-- A task begins. -/
  | start (task : Nat)
  /-- A flight begins, which replaces `current`. -/
  | launch (g : Generation) (current : Credentials)
  /-- A reply arrives for request `id`. -/
  | answer (id : Nat) (reply : Reply)
  /-- The flight that a task waited for has ended. -/
  | wake (task : Nat) (outcome : SingleFlight.Outcome)

end SessionKeeper.Client

namespace SessionKeeper.RefreshEndpoint

/-- How the call that replaces credentials ends by the reply to its request. -/
def answered (endpoint : RefreshEndpoint) : Client.Reply → Traffic.Ending
  | .response r => .returned (endpoint.outcome (.ok r))
  | .fault f => .returned (endpoint.outcome (.error f))
  | .crash => .crashed

end SessionKeeper.RefreshEndpoint
