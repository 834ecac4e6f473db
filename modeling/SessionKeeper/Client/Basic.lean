import SessionKeeper.Client.Task

/-! # The client

A client sends the requests of an application with the credentials of a
session.  It keeps the session alive where it can and ends it where it must:

* a request that the service refuses is sent once more with newer
  credentials, which concurrent requests get by one refresh;
* if there are none, or they are refused too, the session ends, and the
  application is asked once to present the sign-in;
* sign-ins and refreshes are never sent twice;
* every other answer goes back to the application as it is.

Credentials are replaced at the `RefreshEndpoint` of the settings.  An application may also
bring a call of its own to replace them; such a client is not described here, but callers
whose call ends in any way are (`Traffic`).

A step of a client is what happens between two waits.  Each `Step` can be
performed by itself, so steps of different tasks can come in any order; those
that a step enables are appended to `ready`.

Core Lean 4 only; no Mathlib. -/

namespace SessionKeeper

open Client

/-- A client. -/
structure Client where
  options : Options
  /-- The time by the client's clock. -/
  now : Time.Instant
  desk : SingleFlight
  /-- Task `n` is the `n`-th. -/
  tasks : List Task := []
  /-- Everything that was sent; request `id` is the `id`-th. -/
  sent : List Sent := []
  /-- The requests without a reply, and who waits for it. -/
  awaiting : List (Nat × Owner) := []
  /-- What can go on, in the order in which it was enabled. -/
  ready : List Step := []
  /-- The outcomes of tasks, oldest first. -/
  settled : List (Nat × Client.Outcome) := []
  /-- How often the application was asked to present the sign-in. -/
  signInPrompts : Nat := 0
  /-- How often the application was told of an unexpected failure. -/
  failureNotices : Nat := 0

namespace Client

/-- A client whose session is what a store holds. -/
def new (options : Options) (store : Store) (now : Time.Instant) : Client :=
  { options, now, desk := { session := .restore store } }

/-- The session of a client. -/
def session (c : Client) : Session :=
  c.desk.session

/-- The client with another session. -/
def setSession (c : Client) (s : Session) : Client :=
  { c with desk := { c.desk with session := s } }

/-- Task `n` comes to a stage. -/
def setStage (c : Client) (n : Nat) (stage : Stage) : Client :=
  { c with tasks := c.tasks.modify n fun t => { t with stage } }

/-- More steps can go on. -/
def enable (c : Client) (steps : List Step) : Client :=
  { c with ready := c.ready ++ steps }

/-! ## How tasks end -/

/-- Task `n` ends. -/
def finish (c : Client) (n : Nat) (o : Client.Outcome) : Client :=
  { c.setStage n .done with settled := c.settled ++ [(n, o)] }

/-- Ask for the sign-in, unless that was done since the session ended. -/
def promptSignIn (c : Client) : Client :=
  match c.session.claimPrompt with
  | (true, s) => { c.setSession s with signInPrompts := c.signInPrompts + 1 }
  | (false, s) => c.setSession s

/-- End the session and ask for the sign-in. -/
def signOut (c : Client) : Client :=
  (c.setSession c.session.signOut.2).promptSignIn

/-- Task `n` ends together with the session. -/
def expel (c : Client) (n : Nat) (e : CallError) : Client :=
  c.signOut.finish n (.failed e)

/-- Task `n` ends with an error that leaves the session alone.  The
application is told if nobody expected it. -/
def surface (c : Client) (n : Nat) (e : CallError) : Client :=
  match e with
  | .unexpected _ _ =>
    { c with failureNotices := c.failureNotices + 1 }.finish n (.failed e)
  | _ => c.finish n (.failed e)

/-- Task `n` was refused without having shown credentials.  A session that
has begun since is left alone. -/
def rejectAnonymous (c : Client) (n : Nat) : Client :=
  if c.session.isLoggedIn then c.finish n (.failed .sentTooEarly)
  else c.promptSignIn.finish n (.failed .signInRequired)

/-- Task `n` has got its response. -/
def complete (c : Client) (n : Nat) (purpose : Purpose) (r : Http.Response) : Client :=
  match purpose with
  | .exchange => c.finish n (.response r)
  | .signIn =>
    match Credentials.issuedBy r c.options.refreshCookieName with
    | .error e => c.finish n (.failed e)
    | .ok credentials =>
      let (g, s) := c.session.signIn credentials
      (c.setSession s).finish n (.signedIn g)

/-! ## Sending -/

/-- A request goes out. -/
def transmit (c : Client) (owner : Owner) (r : Http.Request) : Client :=
  { c with sent := c.sent ++ [⟨owner, r⟩], awaiting := c.awaiting ++ [(c.sent.length, owner)] }

/-- A request with credentials in place of any authorization of its own. -/
def authorize (r : Http.Request) (used : Option Credentials) : Except CallError Http.Request :=
  match used with
  | none => .ok r
  | some credentials =>
    if Http.isFieldValue credentials.authorization then
      .ok { r with headers := r.headers.set Http.authorization credentials.authorization }
    else .error (.internal .authorization)

/-- Task `n` sends its request and comes to a stage. -/
def send (c : Client) (n : Nat) (r : Http.Request) (used : Option Credentials) (stage : Stage) :
    Client :=
  match authorize r used with
  | .error e => c.surface n e
  | .ok r => (c.setStage n stage).transmit (.task n) r

/-- Task `n` sends its request for the first time. -/
def sendFirst (c : Client) (n : Nat) (r : Http.Request) (used : Option Snapshot) : Client :=
  c.send n r (used.map (·.credentials)) (.sent used)

/-! ## Waiting for credentials -/

/-- Task `n` goes on with the outcome of a refresh.  Ahead of its first
sending it takes what the session has now; after a refusal it takes the newer
credentials themselves. -/
def proceed (c : Client) (n : Nat) (r : Http.Request) (occasion : Occasion)
    (outcome : SingleFlight.Outcome) : Client :=
  match outcome, occasion with
  | .error refusal, _ => c.expel n refusal.toCallError
  | .ok _, .ahead => c.sendFirst n r c.session.current
  | .ok fresh, .refused => c.send n r (some fresh) .resent

/-- Task `n` asks for credentials newer than `refused`. -/
def ask (c : Client) (n : Nat) (r : Http.Request) (occasion : Occasion) (refused : Generation) :
    Client :=
  match c.desk.ask n refused with
  | (.answered outcome, desk) => { c with desk }.proceed n r occasion outcome
  | (.joined superseded, desk) => { c with desk }.setStage n (.waiting occasion refused superseded)
  | (.launched g current, desk) =>
    ({ c with desk }.setStage n (.waiting occasion refused false)).enable [.launch g current]

/-- Whether credentials have to be replaced before they are used. -/
def isDue (c : Client) (credentials : Credentials) : Bool :=
  match c.options.window? with
  | none => false
  | some window => credentials.expiresWithin c.now window

/-- Task `n` begins. -/
def begin (c : Client) (n : Nat) (r : Http.Request) : Client :=
  match r.kind with
  | .regular =>
    match c.session.current with
    | some snapshot =>
      if c.isDue snapshot.credentials then c.ask n r .ahead snapshot.generation
      else c.sendFirst n r (some snapshot)
    | none => c.sendFirst n r none
  | _ => c.sendFirst n r none

/-! ## Replies -/

/-- The service has refused what task `n` sent first. -/
def refuse (c : Client) (n : Nat) (r : Http.Request) (used : Option Snapshot) : Client :=
  match r.kind, used with
  | .refresh, _ => c.expel n .refreshRejected
  | .signIn, _ => c.expel n .signInRejected
  | .regular, none => c.rejectAnonymous n
  | .regular, some snapshot => c.ask n r .refused snapshot.generation

/-- The result of a reply. -/
def Reply.result : Reply → Except Client.Outcome Http.Response
  | .crash => .error .crashed
  | .fault f => .error (.failed (.transport f))
  | .response r => if r.isSuccess then .ok r else .error (.failed (.ofResponse r))

/-- A reply arrives for task `n`. -/
def receive (c : Client) (n : Nat) (t : Task) (r : Http.Request) (reply : Reply) : Client :=
  match reply.result, t.stage with
  | .ok response, .sent _ => c.complete n t.purpose response
  | .ok response, .resent => c.complete n t.purpose response
  | .error (.failed .authorizationExpired), .sent used => c.refuse n r used
  | .error (.failed .authorizationExpired), .resent => c.expel n .rejectedAgain
  | .error (.failed e), _ => c.surface n e
  | .error outcome, _ => c.finish n outcome
  | .ok _, _ => c

/-- What a reply to a flight comes to. -/
def flightResult (c : Client) (reply : Reply) : Except CallError Credentials :=
  (c.options.endpoint.answered reply).result

@[simp] theorem flightResult_response (c : Client) (r : Http.Response) :
    c.flightResult (.response r) = c.options.endpoint.outcome (.ok r) := rfl

/-- The flight of a generation ends, and its callers can go on. -/
def settleFlight (c : Client) (g : Generation) (result : Except CallError Credentials) : Client :=
  match c.desk.settle g result with
  | (some (waiters, outcome), desk) => { c with desk }.enable (waiters.map (.wake · outcome))
  | (none, desk) => { c with desk }

/-! ## Steps -/

/-- The task and its request, if it can go on. -/
def task? (c : Client) (n : Nat) : Option (Task × Http.Request) :=
  match c.tasks[n]? with
  | some t =>
    match t.request, t.stage with
    | _, .done => none
    | .ok r, _ => some (t, r)
    | .error _, _ => none
  | none => none

/-- One step is performed. -/
def perform (c : Client) (step : Step) : Client :=
  match step with
  | .start n =>
    match c.tasks[n]? with
    | some ⟨_, .ok r, .starting⟩ => c.begin n r
    | some ⟨_, .error e, .starting⟩ => c.finish n (.unbuildable e)
    | _ => c
  | .launch g current =>
    match c.options.endpoint.request current with
    | .ok r => c.transmit (.flight g) r
    | .error e => c.settleFlight g (.error e)
  | .answer id reply =>
    let rest : Client := { c with awaiting := c.awaiting.filter (·.1 != id) }
    match c.awaiting.lookup id with
    | some (.flight g) => rest.settleFlight g (c.flightResult reply)
    | some (.task n) =>
      match c.task? n with
      | some (t, r) => rest.receive n t r reply
      | none => rest
    | none => c
  | .wake n outcome =>
    match c.task? n with
    | some (⟨_, _, .waiting occasion refused superseded⟩, r) =>
      if superseded then c.ask n r occasion refused else c.proceed n r occasion outcome
    | _ => c

/-! ## What an application does -/

/-- Start a task. -/
def spawn (c : Client) (purpose : Purpose) (request : Except Http.BuildError Http.Request) :
    Client :=
  let task : Task := { purpose, request }
  { c with tasks := c.tasks ++ [task] }.enable [.start c.tasks.length]

/-- The request of a sign-in. -/
def signInRequest (c : Client) (email password : String) : Http.Request :=
  (Http.Request.signIn c.options.signInPath).withBody
    (.object [("email", .string email), ("password", .string password)])

/-- Start a sign-in. -/
def spawnSignIn (c : Client) (email password : String) : Client :=
  c.spawn .signIn (.ok (c.signInRequest email password))

/-- Drop a task.  It never ends, and nobody waits for what it has sent. -/
def abort (c : Client) (n : Nat) : Client :=
  { c.setStage n .done with awaiting := c.awaiting.filter (·.2 ≠ .task n) }

/-- Whether somebody waits for the reply to a request. -/
def awaits (c : Client) (id : Nat) : Bool :=
  (c.awaiting.lookup id).isSome

/-- The oldest request that somebody waits for, and its number. -/
def nextAwaited? (c : Client) : Option (Nat × Http.Request) := do
  let (id, _) ← c.awaiting.head?
  let sent ← c.sent[id]?
  return (id, sent.request)

end Client

end SessionKeeper
