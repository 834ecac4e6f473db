import SessionKeeper.Credential.Store
import SessionKeeper.Session.State

/-! # The session

A session is restored from a credential store and changed by six operations.
Each operation is one step: it writes the store, moves the state, and
publishes the new state to whoever watches.

* `signIn` replaces whatever session there is.
* `startRefresh` goes from `loggedIn g` to `refreshing g`.
* `finishRefresh g` and `failRefresh g` leave `refreshing g`, and do nothing
  in any other state: the session has moved on, and their news is stale.
* `signOut` ends the session.
* `claimPrompt` tells one caller after each end of the session that it is the
  one to ask for a new sign-in.

A store that cannot be written does not hold a session up: the session goes
on with what it has in memory.

Core Lean 4 only; no Mathlib. -/

namespace SessionKeeper

/-- Credentials together with their generation. -/
structure Snapshot where
  generation : Generation
  credentials : Credentials
  deriving DecidableEq

/-- The state that was published last, and how often that happened. -/
structure Session.Watch where
  value : Session.State
  version : Nat := 0
  deriving DecidableEq

/-- A session. -/
structure Session where
  state : Session.State
  /-- The credentials in use. -/
  current : Option Snapshot
  /-- The newest generation handed out. -/
  lastIssued : Option Generation
  /-- Whether the sign-in prompt was claimed since the session ended. -/
  prompted : Bool
  store : Store
  watch : Session.Watch

namespace Session

/-- The session of the credentials that a store holds. -/
def restore (store : Store) : Session :=
  match store.load with
  | some credentials =>
    { state := .loggedIn .first
      current := some ⟨.first, credentials⟩
      lastIssued := some .first
      prompted := false
      store
      watch := { value := .loggedIn .first } }
  | none =>
    { state := .loggedOut
      current := none
      lastIssued := none
      prompted := false
      store
      watch := { value := .loggedOut } }

/-- Whether somebody is signed in. -/
def isLoggedIn (s : Session) : Bool :=
  s.state.isLoggedIn

/-- The credentials in use, without their generation. -/
def credentials? (s : Session) : Option Credentials :=
  s.current.map (·.credentials)

@[simp] theorem restore_store (store : Store) : (restore store).store = store := by
  unfold restore
  split <;> rfl

/-- A session takes over what its store holds. -/
theorem credentials?_restore (store : Store) :
    (restore store).credentials? = store.load := by
  cases hload : store.load with
  | none => simp [restore, hload, credentials?]
  | some c => simp [restore, hload, credentials?]

/-- Move to a state and publish it. -/
def publish (s : Session) (state : State) : Session :=
  { s with state, watch := ⟨state, s.watch.version + 1⟩ }

/-- Keep credentials in the store, if it can be written. -/
def persist (s : Session) (c : Credentials) : Session :=
  { s with store := s.store.attempt (s.store.save c) }

/-- Remove what the store holds, if it can be written. -/
def forget (s : Session) : Session :=
  { s with store := s.store.attempt s.store.clear }

/-- The generation of the next credentials. -/
def nextGeneration (s : Session) : Generation :=
  .after s.lastIssued

/-- Take new credentials into use. -/
def install (s : Session) (c : Credentials) : Session :=
  let g := s.nextGeneration
  { s.persist c with current := some ⟨g, c⟩, lastIssued := some g }

/-- The credentials that take the place of those in use.  Without a refresh
token of their own they keep the old one. -/
def replacement (s : Session) (c : Credentials) : Credentials :=
  c.keepRefreshToken s.credentials?

/-- The session with its credentials replaced. -/
def replaced (s : Session) (c : Credentials) : Session :=
  (s.install (s.replacement c)).publish (.loggedIn s.nextGeneration)

/-- The session without any credentials, here and in the store. -/
def cleared (s : Session) : Session :=
  { s.forget with current := none }

/-- The session at its end. -/
def ended (s : Session) : Session :=
  s.cleared.publish .loggedOut

/-! ## Operations -/

/-- Start a session with new credentials. -/
def signIn (s : Session) (c : Credentials) : Generation × Session :=
  let g := s.nextGeneration
  (g, { s.install c with prompted := false }.publish (.loggedIn g))

/-- Begin to replace the credentials; the generation to be replaced, if the
session is idle. -/
def startRefresh (s : Session) : Option Generation × Session :=
  match s.state with
  | .loggedIn g => (some g, s.publish (.refreshing g))
  | _ => (none, s)

/-- Replace the credentials of generation `g`. -/
def finishRefresh (s : Session) (g : Generation) (c : Credentials) : Option Snapshot × Session :=
  if s.state = .refreshing g then
    (some ⟨s.nextGeneration, s.replacement c⟩, s.replaced c)
  else (none, s)

/-- Give up replacing the credentials of generation `g`, and end the session. -/
def failRefresh (s : Session) (g : Generation) : Bool × Session :=
  if s.state = .refreshing g then (true, s.ended) else (false, s)

/-- End the session; whether there was one. -/
def signOut (s : Session) : Bool × Session :=
  if s.isLoggedIn then (true, s.ended) else (false, s.cleared)

/-- Claim the sign-in prompt.  It is granted once after each end of a session. -/
def claimPrompt (s : Session) : Bool × Session :=
  if s.isLoggedIn || s.prompted then (false, s) else (true, { s with prompted := true })

/-! ## Watching -/

/-- A watcher of a session: the version it has seen last. -/
structure Receiver where
  seen : Nat
  deriving DecidableEq

/-- A new watcher, who has seen everything so far. -/
def subscribe (s : Session) : Receiver :=
  ⟨s.watch.version⟩

/-- Whether anything was published that the watcher has not seen. -/
def hasNews (s : Session) (r : Receiver) : Bool :=
  r.seen ≠ s.watch.version

/-! ## Guarding -/

/-- What a guard says to somebody who wants to enter. -/
inductive Verdict where
  | proceed
  | redirectToLogin
  deriving DecidableEq, Repr

/-- Let in everybody who is signed in, and others where that is not required. -/
def guard (s : Session) (requiresSignIn : Bool) : Verdict :=
  if requiresSignIn && !s.isLoggedIn then .redirectToLogin else .proceed

end Session

end SessionKeeper
