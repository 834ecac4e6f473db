import SessionKeeper.Http.Message

/-! # How a call can fail

A request that gets no response fails with a `TransportFault`.  A call fails
with a `CallError`, which tells faults of the transport, refusals by the
service, and the end of the session apart.

Core Lean 4 only; no Mathlib. -/

namespace SessionKeeper

/-- Why a request got no response. -/
inductive Http.TransportFault where
  | timeout (detail : String)
  | connect (detail : String)
  | invalidRequest (detail : String)
  | other (detail : String)
  deriving DecidableEq, Repr

/-- The wording of a fault. -/
def Http.TransportFault.message : Http.TransportFault → String
  | .timeout detail => "request timed out: " ++ detail
  | .connect detail => "connection failed: " ++ detail
  | .invalidRequest detail => "invalid request: " ++ detail
  | .other detail => detail

/-- What went wrong inside the program itself. -/
inductive InternalCause where
  /-- A header could not be built. -/
  | build (error : Http.BuildError)
  /-- The credentials cannot stand in a header. -/
  | authorization
  /-- The answer to a sign-in or a refresh is no record. -/
  | issuance
  /-- The answer to a sign-in or a refresh has an empty access token. -/
  | emptyIssuance
  /-- A refresh call was cut off. -/
  | crashedRefresh
  | other (detail : String)
  deriving DecidableEq, Repr

/-- The wording of a cause. -/
def InternalCause.message : InternalCause → String
  | .build error => error.message
  | .authorization => "Invalid authorization header: failed to parse header value"
  | .issuance => "Failed to parse credential issuance response"
  | .emptyIssuance => "Issuance response does not contain accessToken"
  | .crashedRefresh => "refresh call panicked"
  | .other detail => detail

/-- How a call can end other than with a response. -/
inductive CallError where
  | transport (fault : Http.TransportFault)
  /-- The service refused the request. -/
  | validation (status : Nat) (body : String)
  /-- The service refused the credentials. -/
  | authorizationExpired
  /-- The session is over; a retry may help if a new session could do better. -/
  | sessionExpired (retryable : Bool) (reason : String)
  /-- The service answered with any other status. -/
  | unexpected (status : Nat) (body : String)
  | internal (cause : InternalCause)
  deriving DecidableEq, Repr

namespace CallError

/-- The wording of an error. -/
def message : CallError → String
  | transport fault => "Transport error: " ++ fault.message
  | validation status body => "Validation error: " ++ toString status ++ " - " ++ body
  | authorizationExpired => "Authorization expired"
  | sessionExpired _ reason => "Session expired: " ++ reason
  | unexpected status body => "Unexpected API failure: " ++ toString status ++ " - " ++ body
  | internal cause => "Internal error: " ++ cause.message

/-- Whether the same call may succeed later. -/
def isRetryable : CallError → Bool
  | transport _ => true
  | unexpected _ _ => true
  | sessionExpired retryable _ => retryable
  | _ => false

/-- Whether the error is the end of the session. -/
def isSessionExpired : CallError → Bool
  | sessionExpired _ _ => true
  | _ => false

/-- The error that a status stands for. -/
def ofStatus (status : Nat) (body : String) : CallError :=
  if status = 401 then authorizationExpired
  else if 400 ≤ status ∧ status ≤ 499 then validation status body
  else unexpected status body

/-- The error that a response stands for. -/
def ofResponse (r : Http.Response) : CallError :=
  ofStatus r.status r.text

/-- The end of the session, for good. -/
def expired (reason : String) : CallError :=
  sessionExpired false reason

/-! ## Ends of a session -/

/-- The service refused a refresh that an application sent itself. -/
def refreshRejected : CallError :=
  expired "refresh endpoint rejected the session"

/-- The service refused a sign-in. -/
def signInRejected : CallError :=
  expired "credentials were rejected"

/-- The service refused a request that carried no credentials. -/
def signInRequired : CallError :=
  expired "request requires an authenticated session"

/-- The service refused a request from before the session. -/
def sentTooEarly : CallError :=
  sessionExpired true "request was sent before the current session started"

/-- The service refused the replaced credentials too. -/
def rejectedAgain : CallError :=
  expired "request was rejected again after refreshing credentials"

end CallError

end SessionKeeper
