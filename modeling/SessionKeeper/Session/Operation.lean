import SessionKeeper.Session.Basic

/-! # Sessions in use

What is done with a session in the course of time, and what comes of it.  The six
operations may come in any order and with any arguments: results of refreshes that were
never begun, and generations that were never handed out.  Each operation writes the store
once at most, and any of these writes may fail.

Core Lean 4 only; no Mathlib. -/

namespace SessionKeeper

namespace Session

/-- What can be done with a session. -/
inductive Operation where
  | signIn (c : Credentials)
  | startRefresh
  | finishRefresh (g : Generation) (c : Credentials)
  | failRefresh (g : Generation)
  | signOut
  | claimPrompt
  deriving DecidableEq

/-- The generation whose replacement an operation reports on. -/
def Operation.reports? : Operation → Option Generation
  | finishRefresh g _ => some g
  | failRefresh g => some g
  | _ => none

/-- Whether an operation signs somebody in or out. -/
def Operation.isSign : Operation → Bool
  | signIn _ => true
  | signOut => true
  | _ => false

/-- What comes of an operation. -/
inductive Answer where
  | signedIn (g : Generation)
  /-- The generation that is being replaced now, if it comes to that. -/
  | started (g : Option Generation)
  /-- What took the place of the credentials, if anything did. -/
  | finished (snapshot : Option Snapshot)
  | failed (ended : Bool)
  | signedOut (ended : Bool)
  | claimed (granted : Bool)
  deriving DecidableEq

/-- An operation that was done, and what came of it. -/
structure Deed where
  operation : Operation
  answer : Answer
  deriving DecidableEq

namespace Deed

/-- The generation that was handed out. -/
def issued? (d : Deed) : Option Generation :=
  match d.answer with
  | .signedIn g => some g
  | .finished snapshot => snapshot.map (·.generation)
  | _ => none

/-- The generation whose replacement was begun. -/
def started? (d : Deed) : Option Generation :=
  match d.answer with
  | .started g => g
  | _ => none

/-- The generation whose replacement came to an end, for good or ill. -/
def settled? (d : Deed) : Option Generation :=
  match d.operation, d.answer with
  | .finishRefresh g _, .finished (some _) => some g
  | .failRefresh g, .failed true => some g
  | _, _ => none

/-- What was to be written to the store: credentials, or nothing in their place. -/
def writes? (d : Deed) : Option (Option Credentials) :=
  match d.operation, d.answer with
  | .signIn c, _ => some (some c)
  | .finishRefresh _ _, .finished (some snapshot) => some (some snapshot.credentials)
  | .failRefresh _, .failed true => some none
  | .signOut, _ => some none
  | _, _ => none

end Deed

/-- Something is done with a session. -/
def operate (s : Session) (o : Operation) : Answer × Session :=
  match o with
  | .signIn c => let (g, s) := s.signIn c; (.signedIn g, s)
  | .startRefresh => let (g, s) := s.startRefresh; (.started g, s)
  | .finishRefresh g c => let (snapshot, s) := s.finishRefresh g c; (.finished snapshot, s)
  | .failRefresh g => let (ended, s) := s.failRefresh g; (.failed ended, s)
  | .signOut => let (ended, s) := s.signOut; (.signedOut ended, s)
  | .claimPrompt => let (granted, s) := s.claimPrompt; (.claimed granted, s)

/-- A session while every write of its store fails, or while none is made to fail. -/
def whileFailing (s : Session) (fails : Bool) : Session :=
  { s with store := { s.store with refusing := fails } }

/-! ## Histories -/

/-- Things are done one after another.  `fails n` tells whether the write of the `n`-th of
them is made to fail. -/
def after (s : Session) (fails : Nat → Bool) : List Operation → Session
  | [] => s
  | o :: os => ((s.whileFailing (fails 0)).operate o).2.after (fun n => fails (n + 1)) os

/-- What was done, and what came of it. -/
def deeds (s : Session) (fails : Nat → Bool) : List Operation → List Deed
  | [] => []
  | o :: os =>
    let (answer, s) := (s.whileFailing (fails 0)).operate o
    ⟨o, answer⟩ :: s.deeds (fun n => fails (n + 1)) os

end Session

end SessionKeeper
