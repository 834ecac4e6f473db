import SessionKeeper.Session.Basic
import SessionKeeper.Http.Failure

/-! # One refresh at a time

Any number of callers may find the credentials of a session refused and ask
for newer ones.  At most one refresh is under way at any time, the *flight*;
callers who ask meanwhile wait for it, and all get its outcome in the order in
which they came.

A caller names the generation that was refused.  If the session already has
another one, that is the answer.  A flight for an older generation than the
refused one belongs to a session that is no more: whoever joins it waits for
it to land and then asks again.

The session may end or begin anew while a flight is under way.  Its result is
then dropped, and its callers get what the session has now.

Core Lean 4 only; no Mathlib. -/

namespace SessionKeeper

/-- Why there are no newer credentials. -/
structure Refusal where
  /-- Whether asking later may help. -/
  retryable : Bool
  reason : String
  deriving DecidableEq, Repr

namespace Refusal

/-- Nobody is signed in. -/
def noSession : Refusal := ⟨false, "no active session to refresh"⟩

/-- The session is not in a state to be refreshed. -/
def notStartable : Refusal := ⟨false, "session cannot be refreshed"⟩

/-- The session ended before the refresh did. -/
def sessionEnded : Refusal := ⟨false, "session ended while the refresh was in flight"⟩

/-- The refresh under way went away without an outcome. -/
def abandoned : Refusal := ⟨true, "refresh was abandoned before settling"⟩

/-- The refresh failed.  If the service refused it there is no use in asking
again. -/
def ofError (e : CallError) : Refusal :=
  match e with
  | .authorizationExpired => ⟨false, "refresh rejected: " ++ e.message⟩
  | .validation _ _ => ⟨false, "refresh rejected: " ++ e.message⟩
  | _ => ⟨true, "refresh failed: " ++ e.message⟩

/-- A refusal as the end of a call. -/
def toCallError (r : Refusal) : CallError :=
  .sessionExpired r.retryable r.reason

end Refusal

namespace SingleFlight

/-- What a caller gets. -/
abbrev Outcome := Except Refusal Credentials

/-- The refresh under way: the generation it replaces, and who waits for it,
in the order in which they came. -/
structure Flight where
  generation : Generation
  waiters : List Nat
  deriving DecidableEq, Repr

/-- What becomes of a question. -/
inductive Reply where
  | answered (outcome : Outcome)
  /-- The caller waits; after a superseded flight it has to ask again. -/
  | joined (superseded : Bool)
  /-- The caller waits for a new flight that replaces `current`. -/
  | launched (generation : Generation) (current : Credentials)

end SingleFlight

/-- A session and the refresh under way on it. -/
structure SingleFlight where
  session : Session
  flight : Option SingleFlight.Flight := none

namespace SingleFlight

/-- Whether a refresh is under way. -/
def isRefreshing (f : SingleFlight) : Bool :=
  f.flight.isSome

/-- Ask for credentials newer than `refused`, looking at the session three
times: whether it is signed in, what its credentials are, and when it is to
start a refresh.  Others may change the session between the looks. -/
def askAcross (f : SingleFlight) (caller : Nat) (refused : Generation)
    (first second third : Session) : Reply × SingleFlight :=
  if first.isLoggedIn then
    match f.flight with
    | some flight =>
      (.joined (flight.generation.isOlder refused),
        ⟨first, some { flight with waiters := flight.waiters ++ [caller] }⟩)
    | none =>
      match second.current with
      | none => (.answered (.error .noSession), ⟨second, none⟩)
      | some snapshot =>
        if snapshot.generation = refused then
          match third.startRefresh with
          | (some g, session) =>
            (.launched g snapshot.credentials, ⟨session, some ⟨g, [caller]⟩⟩)
          | (none, session) => (.answered (.error .notStartable), ⟨session, none⟩)
        else (.answered (.ok snapshot.credentials), ⟨second, none⟩)
  else (.answered (.error .noSession), ⟨first, f.flight⟩)

/-- Ask for credentials newer than `refused`, with nobody else at the session. -/
def ask (f : SingleFlight) (caller : Nat) (refused : Generation) : Reply × SingleFlight :=
  f.askAcross caller refused f.session f.session f.session

/-- What the session has to offer to callers whose flight came to nothing. -/
def instead (s : Session) (refusal : Refusal) : Outcome :=
  match s.isLoggedIn, s.current with
  | true, some snapshot => .ok snapshot.credentials
  | _, _ => .error refusal

/-- What a flight of a generation does to the session, and what its callers
get for it. -/
def land (s : Session) (g : Generation) (result : Except CallError Credentials) :
    Outcome × Session :=
  match result with
  | .ok c =>
    match s.finishRefresh g c with
    | (some snapshot, s) => (.ok snapshot.credentials, s)
    | (none, s) => (instead s .sessionEnded, s)
  | .error e =>
    match s.failRefresh g with
    | (true, s) => (.error (.ofError e), s)
    | (false, s) => (instead s (.ofError e), s)

/-- The flight of a generation ends with a result: who gets what.  Nothing
happens if no such flight is under way. -/
def settle (f : SingleFlight) (g : Generation) (result : Except CallError Credentials) :
    Option (List Nat × Outcome) × SingleFlight :=
  match f.flight with
  | some flight =>
    if flight.generation = g then
      let (outcome, session) := land f.session g result
      (some (flight.waiters, outcome), ⟨session, none⟩)
    else (none, f)
  | none => (none, f)

end SingleFlight

end SessionKeeper
