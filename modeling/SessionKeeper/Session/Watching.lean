import SessionKeeper.Session.Operation

/-! # Watched sessions

Any number of watchers may look on while a session is in use.  Each begins to watch at a
time of its own, and asks from time to time whether there is any news.  A watcher that asks
is shown the state that was published last; what was published and replaced since it asked
before is not shown to it.

Core Lean 4 only; no Mathlib. -/

namespace SessionKeeper.Session

/-- What a watcher learns when it asks. -/
structure Notice where
  /-- Whether anything was published that the watcher has not seen. -/
  changed : Bool
  state : State
  deriving DecidableEq

/-- A watcher asks: what it learns, and the watcher afterwards. -/
def poll (s : Session) (r : Receiver) : Notice × Receiver :=
  (⟨s.hasNews r, s.watch.value⟩, s.subscribe)

/-- A session and its watchers, the first that came standing first. -/
structure Watched where
  session : Session
  receivers : List Receiver := []

/-- What can happen to a watched session. -/
inductive Occurrence where
  /-- Something is done with the session; the write of the store may be made to fail. -/
  | operate (o : Operation) (fails : Bool)
  /-- A new watcher comes. -/
  | subscribe
  /-- The `n`-th watcher asks. -/
  | poll (n : Nat)
  deriving DecidableEq

namespace Watched

/-- What the `n`-th watcher learns if it asks now. -/
def notice? (w : Watched) (n : Nat) : Option Notice :=
  w.receivers[n]?.map fun r => (w.session.poll r).1

/-- One thing happens. -/
def step (w : Watched) (e : Occurrence) : Watched :=
  match e with
  | .operate o fails => { w with session := ((w.session.whileFailing fails).operate o).2 }
  | .subscribe => { w with receivers := w.receivers ++ [w.session.subscribe] }
  | .poll n => { w with receivers := w.receivers.modify n fun r => (w.session.poll r).2 }

/-- One thing happens after another. -/
def after (w : Watched) (es : List Occurrence) : Watched :=
  es.foldl step w

/-- The session of the credentials that a store holds, while nobody watches. -/
def restore (store : Store) : Watched :=
  { session := Session.restore store }

end Watched

end SessionKeeper.Session
