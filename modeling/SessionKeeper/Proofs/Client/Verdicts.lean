import SessionKeeper.Proofs.Client.Ledger

/-! # How tasks end, and why

`Deeds` says that a task ends, but not how.  Here every ending is told with its cause.

* A task ends in one of seven ways (`Concludes`).  In five of them the session is left
  alone; the other two follow a refusal by the service, or the want of newer
  credentials (`Rejected`, `Dismissed`).
* An event that ends no task leaves the session as it is or begins a refresh
  (`Continues`), ends a flight, ends the session at the wish of the application, or
  changes the store.  `passed_spec` says that there is nothing else.
* From a cause one knows what the event does: `Rejected.step_eq` and
  `Dismissed.step_eq`.

Core Lean 4 only; no Mathlib. -/

namespace SessionKeeper

open SingleFlight (Flight Asked Landed)

namespace Client

/-! ### Endings and their causes -/

/-- The service answers a request of task `n`, which is `t` and whose request is `r`,
with 401. -/
structure Denied (c : Client) (e : Event) (n : Nat) (t : Task) (r : Http.Request) : Prop where
  reply : ∃ id response, e = .reply id (.response response) ∧ response.status = 401 ∧
    c.awaiting.lookup id = some (.task n)
  task : c.tasks[n]? = some t
  request : t.request = .ok r

/-- Task `n` fails for good in an event, and the session is ended with it. -/
inductive Dismissed (c : Client) (e : Event) (n : Nat) : CallError → Prop where
  /-- The service refuses a refresh that an application has sent itself. -/
  | refresh {t : Task} {r : Http.Request} {used : Option Snapshot} (denied : Denied c e n t r)
      (stage : t.stage = .sent used) (kind : r.kind = .refresh) : Dismissed c e n .refreshRejected
  /-- The service refuses a sign-in. -/
  | signIn {t : Task} {r : Http.Request} {used : Option Snapshot} (denied : Denied c e n t r)
      (stage : t.stage = .sent used) (kind : r.kind = .signIn) : Dismissed c e n .signInRejected
  /-- The service refuses the newer credentials, too. -/
  | again {t : Task} {r : Http.Request} (denied : Denied c e n t r) (stage : t.stage = .resent) :
      Dismissed c e n .rejectedAgain
  /-- There are no newer credentials. -/
  | unrenewed {occasion : Occasion} {g : Generation} {refusal : Refusal}
      (hears : Hears c n e occasion g (.error refusal)) : Dismissed c e n refusal.toCallError

/-- Task `n` is refused without having shown credentials. -/
structure Rejected (c : Client) (e : Event) (n : Nat) : Prop where
  denied : ∃ t r, Denied c e n t r ∧ t.stage = .sent none ∧ r.kind = .regular

/-- What becomes of a client when task `n`, which is `t`, ends in an event. -/
inductive Concludes (c : Client) (e : Event) (n : Nat) (t : Task) : Client → Prop where
  /-- There is no request to send. -/
  | unbuildable {error : Http.BuildError} (request : t.request = .error error) :
      Concludes c e n t ((c.noting e).finish n (.unbuildable error))
  /-- Its credentials cannot stand in a request. -/
  | unsendable {r : Http.Request} {used : Option Credentials} {error : CallError}
      (authorized : authorize r used = .error error) :
      Concludes c e n t ((c.noting e).surface n error)
  /-- Its request succeeds. -/
  | answered {id : Nat} {response : Http.Response} (event : e = .reply id (.response response))
      (success : response.isSuccess = true) :
      Concludes c e n t ((c.noting e).complete n t.purpose response)
  /-- Its request fails in some way that says nothing about the session. -/
  | failed {id : Nat} {reply : Reply} {error : CallError} (event : e = .reply id reply)
      (result : reply.result = .error (.failed error)) (other : error ≠ .authorizationExpired) :
      Concludes c e n t ((c.noting e).surface n error)
  | crashed {id : Nat} (event : e = .reply id .crash) :
      Concludes c e n t ((c.noting e).finish n .crashed)
  | rejected (rejected : Rejected c e n) : Concludes c e n t ((c.noting e).rejectAnonymous n)
  | dismissed {error : CallError} (dismissed : Dismissed c e n error) :
      Concludes c e n t ((c.noting e).expel n error)

/-- Nobody ends, and all that may happen to the session is that a refresh begins. -/
structure Continues (c c' : Client) : Prop where
  settled : c'.settled = c.settled
  signInPrompts : c'.signInPrompts = c.signInPrompts
  failureNotices : c'.failureNotices = c.failureNotices
  session : c'.session = c.session ∨
    ∃ g, c.session.state = .loggedIn g ∧ c'.session = c.session.publish (.refreshing g)

@[simp] theorem noting_settled (c : Client) (e : Event) : (c.noting e).settled = c.settled := by
  cases e <;> rfl

/-- A client that has only taken note of an event goes on, whatever its tasks do next. -/
theorem Continues.noting (c : Client) (e : Event) : Continues c (c.noting e) where
  settled := noting_settled c e
  signInPrompts := noting_signInPrompts c e
  failureNotices := noting_failureNotices c e
  session := Or.inl (noting_session c e)

/-! ### Replies -/

theorem result_eq_ok_iff {reply : Reply} {response : Http.Response} :
    reply.result = .ok response ↔ reply = .response response ∧ response.isSuccess = true := by
  cases reply with
  | crash => simp [Reply.result]
  | fault f => simp [Reply.result]
  | response other =>
    by_cases hsuccess : other.isSuccess = true
    · simp only [Reply.result, hsuccess, if_true, Except.ok.injEq, Reply.response.injEq]
      constructor
      · rintro rfl
        exact ⟨rfl, hsuccess⟩
      · exact And.left
    · simp only [Reply.result, hsuccess, Reply.response.injEq]
      constructor
      · intro h
        cases h
      · rintro ⟨rfl, h⟩
        exact absurd h hsuccess

theorem result_eq_crashed_iff {reply : Reply} :
    reply.result = .error .crashed ↔ reply = .crash := by
  cases reply with
  | crash => simp [Reply.result]
  | fault f => simp [Reply.result]
  | response response =>
    simp only [Reply.result]
    split <;> simp

/-! ### What a task does -/

section turns

variable {c : Client} {e : Event} {n : Nat} {t : Task} {r : Http.Request} {occasion : Occasion}
  {g : Generation}

/-- It sends its request, unless the credentials cannot stand in one. -/
theorem send_turns (used : Option Credentials) (stage : Stage) :
    Continues c ((c.noting e).send n r used stage) ∨
      Concludes c e n t ((c.noting e).send n r used stage) := by
  unfold send
  have hcontinues := Continues.noting c e
  cases h : authorize r used with
  | ok signed =>
    exact Or.inl ⟨hcontinues.settled, hcontinues.signInPrompts, hcontinues.failureNotices,
      hcontinues.session⟩
  | error error => exact Or.inr (.unsendable h)

/-- It has heard an outcome: without newer credentials it is dismissed. -/
theorem proceed_turns {outcome : SingleFlight.Outcome} (h : Hears c n e occasion g outcome) :
    Continues c ((c.noting e).proceed n r occasion outcome) ∨
      Concludes c e n t ((c.noting e).proceed n r occasion outcome) := by
  unfold proceed
  cases outcome with
  | error refusal => exact Or.inr (.dismissed (.unrenewed h))
  | ok fresh =>
    cases occasion with
    | ahead => exact send_turns _ _
    | refused => exact send_turns _ _

theorem ask_turns (hs : c.desk.Sound) (h : Asks c n e occasion g) :
    Continues c ((c.noting e).ask n r occasion g) ∨
      Concludes c e n t ((c.noting e).ask n r occasion g) := by
  unfold ask
  obtain ⟨reply, f, hask, hasked⟩ := SingleFlight.ask_spec hs n g
  have hanswer : (c.desk.ask n g).1 = reply := by rw [hask]
  have hsame : ({ c.noting e with desk := c.desk } : Client) = c.noting e := by cases e <;> rfl
  have hcontinues := Continues.noting c e
  rw [noting_desk, hask]
  cases hasked with
  | signedOut state =>
    simp only [hsame]
    exact proceed_turns (.atOnce h hanswer)
  | advanced idle state current ne =>
    simp only [hsame]
    exact proceed_turns (.atOnce h hanswer)
  | joined state under =>
    exact Or.inl ⟨hcontinues.settled, hcontinues.signInPrompts, hcontinues.failureNotices,
      Or.inl rfl⟩
  | launched idle state current =>
    exact Or.inl ⟨hcontinues.settled, hcontinues.signInPrompts, hcontinues.failureNotices,
      Or.inr ⟨g, state, rfl⟩⟩

theorem begin_turns {place : Nat} (hs : c.desk.Sound) (hstep : c.ready[place]? = some (.start n))
    (htask : c.tasks[n]? = some t) (hr : t.request = .ok r) (hstage : t.stage = .starting) :
    Continues c ((c.noting (.go place)).begin n r) ∨
      Concludes c (.go place) n t ((c.noting (.go place)).begin n r) := by
  unfold begin
  split
  · rename_i hkind
    split
    · rename_i snapshot hcurrent
      split
      · rename_i hdue
        exact ask_turns hs (.ahead hstep htask hr hstage hkind hcurrent hdue)
      · exact send_turns _ _
    · exact send_turns _ _
  · exact send_turns _ _

/-- It is refused what it has sent first: what follows depends on the kind of the request
and on whether credentials were shown. -/
theorem refuse_turns {used : Option Snapshot} {id : Nat} {response : Http.Response}
    (hs : c.desk.Sound) (hawaited : c.awaiting.lookup id = some (.task n))
    (htask : c.tasks[n]? = some t) (hr : t.request = .ok r) (hstage : t.stage = .sent used)
    (hstatus : response.status = 401) :
    let e : Event := .reply id (.response response)
    Continues c ((c.noting e).refuse n r used) ∨
      Concludes c e n t ((c.noting e).refuse n r used) := by
  intro e
  have hdenied : Denied c e n t r := ⟨⟨id, response, rfl, hstatus, hawaited⟩, htask, hr⟩
  unfold refuse
  cases hkind : r.kind with
  | refresh => exact Or.inr (.dismissed (.refresh hdenied hstage hkind))
  | signIn => exact Or.inr (.dismissed (.signIn hdenied hstage hkind))
  | regular =>
    cases used with
    | none => exact Or.inr (.rejected ⟨t, r, hdenied, hstage, hkind⟩)
    | some snapshot => exact ask_turns hs (.refused hawaited htask hr hstage hkind hstatus)

/-- It gets a reply.  A refusal of what was sent again is the last word. -/
theorem receive_turns {id : Nat} {reply : Reply} (hs : c.desk.Sound)
    (hawaited : c.awaiting.lookup id = some (.task n)) (htask : c.tasks[n]? = some t)
    (hr : t.request = .ok r) (hawaits : t.stage.awaitsReply = true) :
    let e : Event := .reply id reply
    Continues c ((c.noting e).receive n t r reply) ∨
      Concludes c e n t ((c.noting e).receive n t r reply) := by
  intro e
  cases hresult : reply.result with
  | ok response =>
    obtain ⟨rfl, hsuccess⟩ := result_eq_ok_iff.mp hresult
    have hanswered : Concludes c e n t ((c.noting e).complete n t.purpose response) :=
      .answered rfl hsuccess
    rw [receive_of_ok hawaits hresult]
    exact Or.inr hanswered
  | error o =>
    rcases result_error hresult with rfl | ⟨error, rfl, -⟩
    · have hcrash := result_eq_crashed_iff.mp hresult
      subst hcrash
      exact Or.inr (.crashed rfl)
    · by_cases hexpired : error = .authorizationExpired
      · subst hexpired
        obtain ⟨response, rfl, hstatus⟩ := result_eq_expired_iff.mp hresult
        obtain ⟨used, hstage⟩ | hstage := Stage.awaitsReply_iff.mp hawaits
        · rw [receive_of_refused hstage hstatus]
          exact refuse_turns hs hawaited htask hr hstage hstatus
        · rw [receive_of_refusedAgain hstage hstatus]
          exact Or.inr (.dismissed
            (.again ⟨⟨id, response, rfl, hstatus, hawaited⟩, htask, hr⟩ hstage))
      · rw [receive_of_failure hresult hexpired]
        exact Or.inr (.failed rfl hresult hexpired)

end turns

/-! ### One event -/

/-- What an event brings for the flight that it concerns. -/
inductive Brings (c : Client) : Event → Except CallError Credentials → Prop where
  /-- A reply to its request. -/
  | reply {id : Nat} {reply : Reply} : Brings c (.reply id reply) (c.flightResult reply)
  /-- Its request cannot be built. -/
  | unbuilt {place : Nat} {error : CallError} : Brings c (.go place) (.error error)

/-- What becomes of a client in an event. -/
inductive Passed (c : Client) (e : Event) : Client → Prop where
  | continues {c' : Client} (continues : Continues c c') : Passed c e c'
  /-- A task ends. -/
  | concludes {n : Nat} {t : Task} {c' : Client} (task : c.tasks[n]? = some t)
      (concludes : Concludes c e n t c') : Passed c e c'
  /-- A flight ends. -/
  | lands {g : Generation} {result : Except CallError Credentials} (calling : c.calling? e = some g)
      (brings : Brings c e result) : Passed c e ((c.noting e).settleFlight g result)
  | signsOut (event : e = .signOut) : Passed c e c.signOut
  | stores {store : Store} (event : e = .store store) :
      Passed c e (c.setSession { c.session with store })

theorem Passed.of_turns {c c' : Client} {e : Event} {n : Nat} {t : Task}
    (htask : c.tasks[n]? = some t) (h : Continues c c' ∨ Concludes c e n t c') : Passed c e c' :=
  h.elim .continues (.concludes htask)

theorem go_passed {c : Client} (hs : c.desk.Sound) {place : Nat} {s : Step}
    (hstep : c.ready[place]? = some s) (hanswer : ∀ id reply, s ≠ .answer id reply) :
    Passed c (.go place) ((c.noting (.go place)).perform s) := by
  cases s with
  | start n =>
    simp only [perform, noting_tasks]
    split
    · rename_i htask
      exact .of_turns htask (begin_turns hs hstep htask rfl rfl)
    · rename_i htask
      exact .concludes htask (.unbuildable rfl)
    · exact .continues (.noting c _)
  | launch g current =>
    simp only [perform, noting_options]
    split
    · have hcontinues := Continues.noting c (.go place)
      exact .continues ⟨hcontinues.settled, hcontinues.signInPrompts, hcontinues.failureNotices,
        hcontinues.session⟩
    · exact .lands (by simp [calling?, hstep, Step.launched?]) .unbuilt
  | answer id reply => exact absurd rfl (hanswer id reply)
  | wake n outcome =>
    simp only [perform, task?, noting_tasks]
    split
    · rename_i occasion g superseded r htask
      obtain ⟨ht, hr⟩ := task?_eq_some (c := c) htask
      refine .of_turns ht ?_
      cases superseded with
      | true => exact ask_turns hs (.again hstep ht rfl)
      | false => exact proceed_turns (.landed rfl hstep ht rfl)
    · exact .continues (.noting c _)

/-- Whoever waits for a reply gets it. -/
theorem Ledger.receive_eq {c : Client} {n id : Nat} {t : Task} (hc : c.Ledger)
    (hawaited : c.awaiting.lookup id = some (.task n)) (htask : c.tasks[n]? = some t)
    (reply : Reply) :
    ∃ r, t.request = .ok r ∧ t.stage.awaitsReply = true ∧
      c.step (.reply id reply) = (c.noting (.reply id reply)).receive n t r reply := by
  obtain ⟨⟨purpose, request, stage⟩, r, htask', rfl, hawaits⟩ := hc.awaits id n hawaited
  have hlive : stage ≠ .done := by
    rintro rfl
    cases hawaits
  cases htask'.symm.trans htask
  exact ⟨r, rfl, hawaits, step_reply hlive hawaited htask⟩

theorem reply_passed {c : Client} (hc : c.Ledger) (id : Nat) (reply : Reply) :
    Passed c (.reply id reply) (c.step (.reply id reply)) := by
  cases hawaited : c.awaiting.lookup id with
  | none =>
    simp only [step, perform, hawaited]
    exact .continues ⟨rfl, rfl, rfl, Or.inl rfl⟩
  | some owner =>
    cases owner with
    | flight g =>
      rw [step_flightReply hawaited]
      exact .lands (by simp [calling?, hawaited, Owner.flight?]) .reply
    | task n =>
      obtain ⟨t, -, htask, -, -⟩ := hc.awaits id n hawaited
      obtain ⟨r, hr, hawaits, hstep⟩ := hc.receive_eq hawaited htask reply
      rw [hstep]
      exact .of_turns htask (receive_turns hc.desk hawaited htask hr hawaits)

/-- **Every event does one of these things.** -/
theorem passed_spec {c : Client} (hc : c.Ledger) (e : Event) : Passed c e (c.step e) := by
  cases e with
  | spawn request => exact .continues ⟨rfl, rfl, rfl, Or.inl rfl⟩
  | signIn email password => exact .continues ⟨rfl, rfl, rfl, Or.inl rfl⟩
  | signOut => exact .signsOut rfl
  | abort n => exact .continues ⟨rfl, rfl, rfl, Or.inl rfl⟩
  | go place =>
    simp only [step]
    split
    · rename_i s hstep
      refine go_passed hc.desk hstep fun id reply heq => hc.answers id reply ?_
      rw [← heq]
      exact List.mem_of_getElem? hstep
    · exact .continues ⟨rfl, rfl, rfl, Or.inl rfl⟩
  | reply id reply => exact reply_passed hc id reply
  | clock now => exact .continues ⟨rfl, rfl, rfl, Or.inl rfl⟩
  | store store => exact .stores rfl

/-! ### From a cause to its ending -/

section causes

variable {c : Client} {e : Event} {n : Nat} {t : Task} {r : Http.Request} {occasion : Occasion}
  {g : Generation}

/-- A task that waits for newer credentials has a request. -/
theorem Ledger.request_of_waiting (hc : c.Ledger) {superseded : Bool} (htask : c.tasks[n]? = some t)
    (hstage : t.stage = .waiting occasion g superseded) : ∃ r, t.request = .ok r := by
  cases hr : t.request with
  | ok r => exact ⟨r, rfl⟩
  | error error =>
    rcases ((hc.kept n t htask).unbuilt error hr).2 with hother | hother
    · rw [hstage] at hother
      cases hother
    · rw [hstage] at hother
      cases hother

/-- Whoever is refused had been waiting for the reply. -/
theorem Denied.step_eq (hc : c.Ledger) (h : Denied c e n t r) :
    ∃ id response, e = .reply id (.response response) ∧ response.status = 401 ∧
      c.step e = (c.noting e).receive n t r (.response response) := by
  obtain ⟨⟨id, response, rfl, hstatus, hawaited⟩, htask, hr⟩ := h
  obtain ⟨r', hr', -, hstep⟩ := hc.receive_eq hawaited htask (.response response)
  cases hr.symm.trans hr'
  exact ⟨id, response, rfl, hstatus, hstep⟩

/-- **Whoever is refused without having shown credentials leaves a session alone that has
begun since.** -/
theorem Rejected.step_eq (hc : c.Ledger) (h : Rejected c e n) :
    c.step e = (c.noting e).rejectAnonymous n := by
  obtain ⟨t, r, hdenied, hstage, hkind⟩ := h.denied
  obtain ⟨id, response, -, hstatus, hstep⟩ := hdenied.step_eq hc
  rw [hstep, receive_of_refused hstage hstatus]
  simp only [refuse, hkind]

/-- A task that asks does so in the step. -/
theorem Asks.step_eq (hc : c.Ledger) (h : Asks c n e occasion g) :
    ∃ t r, c.tasks[n]? = some t ∧ t.request = .ok r ∧
      c.step e = (c.noting e).ask n r occasion g := by
  cases h with
  | @ahead place t r snapshot step task request stage kind current due =>
    refine ⟨t, r, task, request, ?_⟩
    obtain ⟨purpose, request', stage'⟩ := t
    cases request
    cases stage
    have hcurrent : (c.noting (.go place)).session.current = some snapshot := current
    have hdue : (c.noting (.go place)).isDue snapshot.credentials = true := due
    rw [step_start step task, begin_of_signedIn kind hcurrent, if_pos hdue]
  | @refused id t r used response awaited task request stage kind status =>
    have hdenied : Denied c (.reply id (.response response)) n t r :=
      ⟨⟨id, response, rfl, status, awaited⟩, task, request⟩
    obtain ⟨id', response', heq, -, hstep⟩ := hdenied.step_eq hc
    cases heq
    refine ⟨t, r, task, request, ?_⟩
    rw [hstep, receive_of_refused stage status]
    simp only [refuse, kind]
  | @again place t occasion g outcome step task stage =>
    obtain ⟨r, hr⟩ := hc.request_of_waiting task stage
    refine ⟨t, r, task, hr, ?_⟩
    obtain ⟨purpose, request', stage'⟩ := t
    cases hr
    cases stage
    rw [step_wake step task, if_pos rfl]

/-- A task that hears an outcome goes on with it in the step. -/
theorem Hears.step_eq {outcome : SingleFlight.Outcome} (hc : c.Ledger)
    (h : Hears c n e occasion g outcome) :
    ∃ t r, c.tasks[n]? = some t ∧ t.request = .ok r ∧
      c.step e = (c.noting e).proceed n r occasion outcome := by
  cases h with
  | atOnce asks answered =>
    obtain ⟨t, r, htask, hr, hstep⟩ := asks.step_eq hc
    obtain ⟨reply, f, hask, hasked⟩ := SingleFlight.ask_spec hc.desk n g
    have hsame : ({ c.noting e with desk := c.desk } : Client) = c.noting e := by cases e <;> rfl
    rw [hask] at answered
    refine ⟨t, r, htask, hr, ?_⟩
    rw [hstep]
    cases hasked with
    | signedOut state =>
      cases answered
      simp only [ask, noting_desk, hask, hsame]
    | advanced idle state current ne =>
      cases answered
      simp only [ask, noting_desk, hask, hsame]
    | joined state under => cases answered
    | launched idle state current => cases answered
  | @landed place t event step task stage =>
    obtain ⟨r, hr⟩ := hc.request_of_waiting task stage
    refine ⟨t, r, task, hr, ?_⟩
    obtain ⟨purpose, request', stage'⟩ := t
    cases hr
    cases stage
    subst event
    rw [step_wake step task, if_neg (by decide)]

/-- **Whoever is dismissed ends together with the session.** -/
theorem Dismissed.step_eq {error : CallError} (hc : c.Ledger) (h : Dismissed c e n error) :
    c.step e = (c.noting e).expel n error := by
  cases h with
  | refresh denied stage kind =>
    obtain ⟨id, response, -, hstatus, hstep⟩ := denied.step_eq hc
    rw [hstep, receive_of_refused stage hstatus]
    simp only [refuse, kind]
  | signIn denied stage kind =>
    obtain ⟨id, response, -, hstatus, hstep⟩ := denied.step_eq hc
    rw [hstep, receive_of_refused stage hstatus]
    simp only [refuse, kind]
  | again denied stage =>
    obtain ⟨id, response, -, hstatus, hstep⟩ := denied.step_eq hc
    rw [hstep, receive_of_refusedAgain stage hstatus]
  | unrenewed hears =>
    obtain ⟨t, r, -, -, hstep⟩ := hears.step_eq hc
    rw [hstep, proceed]

end causes

end Client

end SessionKeeper
