import SessionKeeper.Client.Basic

/-! # Runs of a client

A `Schedule` performs the steps of a client in the order of a single thread.
This module leaves the order open.  Whatever can go on may go on next, replies
arrive in any order or not at all, the application does what it likes at any
time, the clock may show anything, and others may write the store.

Core Lean 4 only; no Mathlib. -/

namespace SessionKeeper.Client

/-- What can happen to a client. -/
inductive Event where
  /-- The application hands over a request, built or not. -/
  | spawn (request : Except Http.BuildError Http.Request)
  | signIn (email password : String)
  | signOut
  /-- The application drops a task. -/
  | abort (task : Nat)
  /-- One of the steps that can go on does so. -/
  | go (place : Nat)
  /-- A reply arrives for request `id`. -/
  | reply (id : Nat) (reply : Reply)
  /-- The clock moves. -/
  | clock (now : Time.Instant)
  /-- Others write the store, or it begins or ceases to refuse writes. -/
  | store (store : Store)

/-- One event happens. -/
def step (c : Client) : Event → Client
  | .spawn request => c.spawn .exchange request
  | .signIn email password => c.spawnSignIn email password
  | .signOut => c.signOut
  | .abort n => c.abort n
  | .go place =>
    match c.ready[place]? with
    | some step => { c with ready := c.ready.eraseIdx place }.perform step
    | none => c
  | .reply id reply => c.perform (.answer id reply)
  | .clock now => { c with now }
  | .store store => c.setSession { c.session with store }

/-- Events happen one after another. -/
def after (c : Client) (events : List Event) : Client :=
  events.foldl step c

end SessionKeeper.Client
