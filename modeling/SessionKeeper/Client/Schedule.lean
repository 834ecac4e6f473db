import SessionKeeper.Client.Basic
import SessionKeeper.Client.Script

/-! # Running a client on one thread

Steps of a client run one after another, in the order in which they were
enabled.  A request that its script answers at once does not make its sender
wait: the reply is handled before anything else.  Requests that are held at a
gate go on in the order in which they came, behind the one that opened it.

Core Lean 4 only; no Mathlib. -/

namespace SessionKeeper.Client

/-- Work for the thread. -/
inductive Job where
  | step (s : Step)
  /-- A held request goes on to the script. -/
  | release (id : Nat)

/-- A client with the work before it, and the other side of its transport. -/
structure Schedule where
  client : Client
  queue : List Job := []
  script : Script := {}
  gate : Option Gate := none

namespace Schedule

/-- Put all that the client has enabled at the end of the queue. -/
def enqueue (s : Schedule) : Schedule :=
  { s with
    client := { s.client with ready := [] }
    queue := s.queue ++ s.client.ready.map Job.step }

/-- The script looks at a request.  Its reply is the next thing to happen. -/
def consult (s : Schedule) (id : Nat) (r : Http.Request) : Schedule :=
  match s.script.answer? r with
  | some (reply, script) => { s with script, queue := .step (.answer id reply) :: s.queue }
  | none => s

/-- A request arrives at the other side. -/
def arrive (s : Schedule) (id : Nat) (r : Http.Request) : Schedule :=
  match s.gate with
  | some gate =>
    if gate.concerns r then
      if gate.held.length + 1 < gate.parties then
        { s with gate := some { gate with held := gate.held ++ [id] } }
      else
        { s with
          gate := some { gate with held := [] }
          queue := s.queue ++ gate.held.map Job.release }.consult id r
    else s.consult id r
  | none => s.consult id r

/-- One job is done.  A step sends at most one request. -/
def perform (s : Schedule) (job : Job) : Schedule :=
  match job with
  | .release id =>
    match s.client.sent[id]? with
    | some sent => s.consult id sent.request
    | none => s
  | .step step =>
    let id := s.client.sent.length
    let s := { s with client := s.client.perform step }.enqueue
    match s.client.sent[id]? with
    | some sent => s.arrive id sent.request
    | none => s

/-- Do jobs until none is left, `fuel` of them at most. -/
def runFor (fuel : Nat) (s : Schedule) : Schedule :=
  match fuel with
  | 0 => s
  | fuel + 1 =>
    match s.queue with
    | [] => s
    | job :: rest => runFor fuel ({ s with queue := rest }.perform job)

/-- How many jobs there can be.  A task starts once, sends at most twice and
waits at most four times; it launches at most two flights, each of which
begins and ends once; and a held request is released once. -/
def bound (s : Schedule) : Nat :=
  s.queue.length + 16 * (s.client.tasks.length + 1)

/-- Do jobs until the client waits for the outside. -/
def run (s : Schedule) : Schedule :=
  let s := s.enqueue
  runFor s.bound s

end Schedule

end SessionKeeper.Client
