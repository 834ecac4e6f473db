import SessionKeeper.Refresh.SingleFlight

/-! # Callers and calls

`SingleFlight` says what one question and one result do.  This module puts
the callers and the refresh calls around it, so that whole runs can be told:

* a caller starts, and when it next runs it asks, or goes on with an outcome;
* a refresh call starts when a caller launches a flight, and ends by some
  result or is cut off, which wakes the callers that wait for it;
* a caller may be cancelled at any time;
* others sign in and out meanwhile, and write the store.

Each event is one step, and events may come in any order.  `runReady` is the
order of a single thread: callers run in the order in which they were woken.

Core Lean 4 only; no Mathlib. -/

namespace SessionKeeper

open SingleFlight (Outcome)

namespace Traffic

/-- What a caller is at. -/
inductive Caller where
  /-- It has to ask. -/
  | asking (refused : Generation)
  /-- It waits for a flight. -/
  | waiting (refused : Generation) (superseded : Bool)
  /-- The flight it waited for has ended. -/
  | woken (refused : Generation) (superseded : Bool) (outcome : Outcome)
  | finished (outcome : Outcome)
  | cancelled

/-- A refresh call: the generation it replaces, and the credentials it was
given. -/
structure Call where
  generation : Generation
  credentials : Credentials
  deriving DecidableEq

/-- How a call ends. -/
inductive Ending where
  | returned (result : Except CallError Credentials)
  /-- The call is cut off. -/
  | crashed

/-- The result that an ending stands for. -/
def Ending.result : Ending → Except CallError Credentials
  | returned result => result
  | crashed => .error (.internal .crashedRefresh)

/-- What a caller does when it runs. -/
inductive Turn where
  | rest
  | ask (refused : Generation)
  | finish (outcome : Outcome)

/-- What a caller does with the outcome of the flight it waited for.  After a
superseded flight it asks again. -/
def Turn.after (refused : Generation) (superseded : Bool) (outcome : Outcome) : Turn :=
  if superseded then .ask refused else .finish outcome

end Traffic

/-- A run of callers and calls up to some moment. -/
structure Traffic where
  desk : SingleFlight
  /-- Caller `n` is the `n`-th. -/
  callers : List Traffic.Caller := []
  /-- Callers that can run, in the order in which they were woken. -/
  ready : List Nat := []
  /-- The calls that have not ended, oldest first. -/
  calls : List Traffic.Call := []
  /-- All calls that were made, oldest first. -/
  dispatched : List Traffic.Call := []
  /-- The outcomes that callers returned, oldest first. -/
  returned : List (Nat × Outcome) := []

namespace Traffic

/-- Callers and calls of a session. -/
def start (s : Session) : Traffic :=
  { desk := { session := s } }

/-- The state of a caller changes. -/
def setCaller (t : Traffic) (n : Nat) (c : Caller) : Traffic :=
  { t with callers := t.callers.set n c }

/-- A new caller, whose turn comes behind those that can run already. -/
def spawn (t : Traffic) (refused : Generation) : Traffic :=
  { t with callers := t.callers ++ [.asking refused], ready := t.ready ++ [t.callers.length] }

/-- A caller returns. -/
def finish (t : Traffic) (n : Nat) (outcome : Outcome) : Traffic :=
  { t.setCaller n (.finished outcome) with returned := t.returned ++ [(n, outcome)] }

/-- A caller asks. -/
def ask (t : Traffic) (n : Nat) (refused : Generation) : Traffic :=
  match t.desk.ask n refused with
  | (.answered outcome, desk) => { t with desk }.finish n outcome
  | (.joined superseded, desk) => { t with desk }.setCaller n (.waiting refused superseded)
  | (.launched g credentials, desk) =>
    let call : Call := ⟨g, credentials⟩
    { t with desk, calls := t.calls ++ [call], dispatched := t.dispatched ++ [call] }.setCaller n
      (.waiting refused false)

/-- Whether the flight under way is going to wake a caller. -/
def owes (t : Traffic) (n : Nat) : Bool :=
  t.desk.flight.any fun flight => flight.waiters.contains n

/-- What a caller does when it runs.  One that waits goes on waiting for as
long as there is somebody to wake it. -/
def turn (t : Traffic) (n : Nat) : Turn :=
  match t.callers[n]? with
  | some (.asking refused) => .ask refused
  | some (.waiting refused superseded) =>
    if t.owes n then .rest else .after refused superseded (.error .abandoned)
  | some (.woken refused superseded outcome) => .after refused superseded outcome
  | _ => .rest

/-- A caller runs until it has to wait or returns. -/
def run (t : Traffic) (n : Nat) : Traffic :=
  let rested : Traffic := { t with ready := t.ready.erase n }
  match t.turn n with
  | .rest => rested
  | .ask refused => rested.ask n refused
  | .finish outcome => rested.finish n outcome

/-- A caller that waits is woken by an outcome. -/
def wake (outcome : Outcome) (t : Traffic) (n : Nat) : Traffic :=
  match t.callers[n]? with
  | some (.waiting refused superseded) =>
    { t.setCaller n (.woken refused superseded outcome) with ready := t.ready ++ [n] }
  | _ => t

/-- A call for a generation ends with a result. -/
def settle (t : Traffic) (g : Generation) (result : Except CallError Credentials) : Traffic :=
  match t.desk.settle g result with
  | (some (waiters, outcome), desk) => waiters.foldl (wake outcome) { t with desk }
  | (none, desk) => { t with desk }

/-- The call at a place among those that have not ended does so with a result,
if there is one. -/
def settleAt (t : Traffic) (place : Nat) (result : Except CallError Credentials) : Traffic :=
  match t.calls[place]? with
  | some call => { t with calls := t.calls.eraseIdx place }.settle call.generation result
  | none => t

/-- The oldest call ends with a result, if there is one. -/
def settleOldest (t : Traffic) (result : Except CallError Credentials) : Traffic :=
  t.settleAt 0 result

/-- A caller goes away, unless it has returned. -/
def cancel (t : Traffic) (n : Nat) : Traffic :=
  match t.callers[n]? with
  | some (.finished _) => t
  | _ => { t.setCaller n .cancelled with ready := t.ready.erase n }

/-- Something else happens to the session. -/
def onSession {α : Type} (t : Traffic) (f : Session → α × Session) : α × Traffic :=
  let (a, session) := f t.desk.session
  (a, { t with desk := { t.desk with session } })

/-- Every caller that can run does so, in order. -/
def runReady (t : Traffic) : Traffic :=
  t.ready.foldl run t

/-! ## Runs -/

/-- What can happen. -/
inductive Event where
  | spawn (refused : Generation)
  | run (caller : Nat)
  /-- One of the calls that have not ended does so. -/
  | settle (place : Nat) (ending : Ending)
  | cancel (caller : Nat)
  | signIn (c : Credentials)
  | signOut
  | claimPrompt
  /-- Others write the store, or it begins or ceases to refuse writes. -/
  | store (s : Store)

/-- One event happens. -/
def step (t : Traffic) : Event → Traffic
  | .spawn refused => t.spawn refused
  | .run n => t.run n
  | .settle place ending => t.settleAt place ending.result
  | .cancel n => t.cancel n
  | .signIn c => (t.onSession (·.signIn c)).2
  | .signOut => (t.onSession Session.signOut).2
  | .claimPrompt => (t.onSession Session.claimPrompt).2
  | .store store => (t.onSession fun s => ((), { s with store })).2

/-- Events happen one after another. -/
def after (t : Traffic) (events : List Event) : Traffic :=
  events.foldl step t

end Traffic

end SessionKeeper
