import SessionKeeper.Proofs.Client.Files

/-! # What happens in an event, and why

`Steps` says what can become of a client.  Here is why: each thing that a task
does is told together with its cause.

* A task asks for newer credentials because its own are about to expire, because
  the service has refused them, or because the flight that it waited for was
  superseded (`Asks`).
* It hears an outcome at once, or when the flight that it waited for has landed
  (`Hears`).
* It sends its request for the second time only if it asked after a refusal, and
  heard of newer credentials (`Acted.sendsAgain`).

`happened_spec` says that an event does one of seven things, and what is known of
each.  All that later modules prove about runs is read off its cases.

Core Lean 4 only; no Mathlib. -/

namespace SessionKeeper

open SingleFlight (Flight Asked)

namespace Client

/-! ### Events -/

/-- The request whose reply an event brings. -/
def Event.reply? : Event → Option Nat
  | .reply id _ => some id
  | _ => none

/-- The generation whose flight a step begins. -/
def Step.launched? : Step → Option Generation
  | .launch g _ => some g
  | _ => none

/-- The generation whose flight a request was sent for. -/
def Owner.flight? : Owner → Option Generation
  | .flight g => some g
  | _ => none

/-- The generation whose flight an event concerns: it begins, or a reply arrives
for it. -/
def calling? (c : Client) : Event → Option Generation
  | .go place => c.ready[place]?.bind Step.launched?
  | .reply id _ => (c.awaiting.lookup id).bind Owner.flight?
  | _ => none

/-- The client that has taken note of an event, and not done anything yet. -/
def noting (c : Client) : Event → Client
  | .go place => { c with ready := c.ready.eraseIdx place }
  | .reply id _ => { c with awaiting := c.awaiting.filter (·.1 != id) }
  | _ => c

section noting

variable (c : Client) (e : Event)

@[simp] theorem noting_options : (c.noting e).options = c.options := by
  cases e <;> rfl

@[simp] theorem noting_desk : (c.noting e).desk = c.desk := by
  cases e <;> rfl

@[simp] theorem noting_session : (c.noting e).session = c.session := by
  cases e <;> rfl

@[simp] theorem noting_tasks : (c.noting e).tasks = c.tasks := by
  cases e <;> rfl

@[simp] theorem noting_sent : (c.noting e).sent = c.sent := by
  cases e <;> rfl

@[simp] theorem noting_signInPrompts : (c.noting e).signInPrompts = c.signInPrompts := by
  cases e <;> rfl

@[simp] theorem noting_failureNotices : (c.noting e).failureNotices = c.failureNotices := by
  cases e <;> rfl

theorem noting_ready_subset : ∀ s ∈ (c.noting e).ready, s ∈ c.ready := by
  intro s hs
  cases e with
  | go place => exact (List.eraseIdx_sublist _ _).subset hs
  | _ => exact hs

theorem noting_awaiting :
    (c.noting e).awaiting = c.awaiting.filter fun p => e.reply? ≠ some p.1 := by
  have hall : c.awaiting = c.awaiting.filter fun p => (none : Option Nat) ≠ some p.1 :=
    (List.filter_eq_self.mpr fun _ _ => rfl).symm
  cases e with
  | reply id reply =>
    refine List.filter_congr fun p _ => ?_
    by_cases hp : p.1 = id
    · simp [Event.reply?, hp]
    · simp [Event.reply?, hp, Ne.symm hp]
  | _ => exact hall

/-- To take note of a reply is to wait for it no longer. -/
theorem file_noting (n : Nat) : (c.noting e).file n = (c.file n).hear e.reply? := by
  have hsettled : (c.noting e).settled = c.settled := by cases e <;> rfl
  have hawaited : (c.noting e).awaitedBy (.task n) =
      (c.awaitedBy (.task n)).filter fun id => e.reply? ≠ some id := by
    simp only [awaitedBy, noting_awaiting, List.filter_map, List.filter_filter]
    congr 1
    refine List.filter_congr fun p _ => ?_
    exact Bool.and_comm _ _
  simp only [file, File.hear, noting_tasks, sentBy, noting_sent, outcomesOf, hsettled, hawaited]

/-- A task that sends has come to its new stage, and has sent one request more. -/
theorem file_sends {n : Nat} {t : Task} (htask : c.tasks[n]? = some t) (stage : Stage)
    (signed : Http.Request) :
    let f := (((c.noting e).setStage n stage).transmit (.task n) signed).file n
    f.task = some { t with stage } ∧ f.sent = c.sentBy (.task n) ++ [signed] ∧
      f.outcomes = c.outcomesOf n := by
  rw [file_transmit, if_pos rfl, file_setStage, if_pos rfl, file_noting]
  refine ⟨?_, rfl, rfl⟩
  show Option.map _ c.tasks[n]? = _
  rw [htask]
  rfl

/-- A task that waits has come to its new stage, and has sent what it had sent. -/
theorem file_waits {n : Nat} {t : Task} (htask : c.tasks[n]? = some t) (stage : Stage)
    (desk : SingleFlight) :
    let f := (({ c.noting e with desk } : Client).setStage n stage).file n
    f.task = some { t with stage } ∧ f.sent = c.sentBy (.task n) ∧ f.outcomes = c.outcomesOf n := by
  rw [file_setStage, if_pos rfl, file_withDesk, file_noting]
  refine ⟨?_, rfl, rfl⟩
  show Option.map _ c.tasks[n]? = _
  rw [htask]
  rfl

/-- A task that ends has one outcome more, and has sent what it had sent. -/
theorem Ended.own {c' : Client} {n : Nat} {o : Client.Outcome} {t : Task}
    (h : Ended (c.noting e) n o c') (htask : c.tasks[n]? = some t) :
    (c'.file n).task = some { t with stage := .done } ∧ (c'.file n).sent = c.sentBy (.task n) ∧
      (c'.file n).outcomes = c.outcomesOf n ++ [o] := by
  rw [h.file, if_pos rfl, file_noting]
  refine ⟨?_, rfl, rfl⟩
  show Option.map _ c.tasks[n]? = _
  rw [htask]
  rfl

end noting

/-! ### Causes -/

/-- In an event, task `n` asks for credentials newer than those of generation
`g`. -/
inductive Asks (c : Client) (n : Nat) : Event → Occasion → Generation → Prop where
  /-- It begins, and the credentials in use are about to expire. -/
  | ahead {place : Nat} {t : Task} {r : Http.Request} {snapshot : Snapshot}
      (step : c.ready[place]? = some (.start n)) (task : c.tasks[n]? = some t)
      (request : t.request = .ok r) (stage : t.stage = .starting) (kind : r.kind = .regular)
      (current : c.session.current = some snapshot) (due : c.isDue snapshot.credentials = true) :
      Asks c n (.go place) .ahead snapshot.generation
  /-- The service refuses the credentials that it has shown. -/
  | refused {id : Nat} {t : Task} {r : Http.Request} {used : Snapshot} {response : Http.Response}
      (awaited : c.awaiting.lookup id = some (.task n)) (task : c.tasks[n]? = some t)
      (request : t.request = .ok r) (stage : t.stage = .sent (some used)) (kind : r.kind = .regular)
      (status : response.status = 401) :
      Asks c n (.reply id (.response response)) .refused used.generation
  /-- The flight that it waited for was superseded. -/
  | again {place : Nat} {t : Task} {occasion : Occasion} {g : Generation}
      {outcome : SingleFlight.Outcome} (step : c.ready[place]? = some (.wake n outcome))
      (task : c.tasks[n]? = some t) (stage : t.stage = .waiting occasion g true) :
      Asks c n (.go place) occasion g

/-- In an event, the question of task `n` for credentials newer than those of
generation `g` comes to an outcome. -/
inductive Hears (c : Client) (n : Nat) (e : Event) (occasion : Occasion) (g : Generation)
    (outcome : SingleFlight.Outcome) : Prop where
  /-- It asks, and is answered. -/
  | atOnce (asks : Asks c n e occasion g) (answered : (c.desk.ask n g).1 = .answered outcome)
  /-- The flight that it waited for has landed. -/
  | landed {place : Nat} {t : Task} (event : e = .go place)
      (step : c.ready[place]? = some (.wake n outcome)) (task : c.tasks[n]? = some t)
      (stage : t.stage = .waiting occasion g false)

/-- Whoever asks has come this far. -/
theorem Asks.stage_cases {c : Client} {n : Nat} {e : Event} {occasion : Occasion} {g : Generation}
    (h : Asks c n e occasion g) : ∃ t, c.tasks[n]? = some t ∧
      (t.stage = .waiting occasion g true ∨
        (occasion = .ahead ∧ t.stage = .starting ∨
          occasion = .refused ∧ ∃ used, t.stage = .sent (some used) ∧ used.generation = g) ∧
        ∃ r, t.request = .ok r ∧ r.kind = .regular) := by
  cases h with
  | ahead step task request stage kind current due =>
    exact ⟨_, task, Or.inr ⟨Or.inl ⟨rfl, stage⟩, _, request, kind⟩⟩
  | refused awaited task request stage kind status =>
    exact ⟨_, task, Or.inr ⟨Or.inr ⟨rfl, _, stage, rfl⟩, _, request, kind⟩⟩
  | again step task stage => exact ⟨_, task, Or.inl stage⟩

/-! ### What a task does -/

/-- Whether a task waits for a reply. -/
def Stage.awaitsReply : Stage → Bool
  | .sent _ => true
  | .resent => true
  | _ => false

/-- A task that waits for a reply has sent its request, for the first or for the
second time. -/
theorem Stage.awaitsReply_iff {stage : Stage} :
    stage.awaitsReply = true ↔ (∃ used, stage = .sent used) ∨ stage = .resent := by
  cases stage <;> simp [awaitsReply]

/-- An event concerns task `n`, which is `t`: it begins, it is woken, or a reply
arrives that it waits for. -/
inductive Concerns (c : Client) (n : Nat) (t : Task) : Event → Prop where
  | start {place : Nat} (step : c.ready[place]? = some (.start n)) (stage : t.stage = .starting) :
      Concerns c n t (.go place)
  | wake {place : Nat} {outcome : SingleFlight.Outcome} {occasion : Occasion} {g : Generation}
      {superseded : Bool} (step : c.ready[place]? = some (.wake n outcome))
      (stage : t.stage = .waiting occasion g superseded) : Concerns c n t (.go place)
  | reply {id : Nat} {reply : Reply} (awaited : c.awaiting.lookup id = some (.task n))
      (stage : t.stage.awaitsReply = true) : Concerns c n t (.reply id reply)

/-- What becomes of a client when task `n`, which is `t`, does something in an
event. -/
inductive Acted (c : Client) (e : Event) (n : Nat) (t : Task) : Client → Prop where
  /-- It sends its request for the first time.  Only a regular request carries
  credentials, and those are the ones that the session has now. -/
  | sendsFirst {r signed : Http.Request} {used : Option Snapshot} (request : t.request = .ok r)
      (due : t.stage = .starting ∧ (used = none ∨ r.kind = .regular) ∨
        ∃ g superseded, t.stage = .waiting .ahead g superseded)
      (shown : ∀ snapshot, used = some snapshot → c.session.current = some snapshot)
      (authorized : authorize r (used.map (·.credentials)) = .ok signed) :
      Acted c e n t (((c.noting e).setStage n (.sent used)).transmit (.task n) signed)
  /-- It sends its request once more, with the credentials of which it has heard
  after a refusal. -/
  | sendsAgain {r signed : Http.Request} {g : Generation} {fresh : Credentials}
      (request : t.request = .ok r) (hears : Hears c n e .refused g (.ok fresh))
      (authorized : authorize r (some fresh) = .ok signed) :
      Acted c e n t (((c.noting e).setStage n .resent).transmit (.task n) signed)
  /-- It asks, and joins those who wait. -/
  | joins {occasion : Occasion} {g : Generation} {flight : Flight} (asks : Asks c n e occasion g)
      (under : c.desk.flight = some flight) :
      Acted c e n t
        ({ c.noting e with
            desk := { c.desk with
              flight := some { flight with waiters := flight.waiters ++ [n] } } }.setStage n
          (.waiting occasion g (flight.generation.isOlder g)))
  /-- It asks, and launches a flight. -/
  | launches {occasion : Occasion} {g : Generation} {current : Credentials}
      (asks : Asks c n e occasion g) (idle : c.desk.flight = none)
      (state : c.session.state = .loggedIn g) (now : c.session.current = some ⟨g, current⟩) :
      Acted c e n t
        (({ c.noting e with
            desk := ⟨c.session.publish (.refreshing g), some ⟨g, [n]⟩⟩ }.setStage n
          (.waiting occasion g false)).enable [.launch g current])
  /-- It ends. -/
  | ends {o : Client.Outcome} {c' : Client} (ended : Ended (c.noting e) n o c') :
      Acted c e n t c'

section acted

variable {c : Client} {e : Event} {n : Nat} {t : Task} {r : Http.Request} {occasion : Occasion}
  {g : Generation}

theorem sendFirst_acted {used : Option Snapshot} (hr : t.request = .ok r)
    (hdue : t.stage = .starting ∧ (used = none ∨ r.kind = .regular) ∨
      ∃ g superseded, t.stage = .waiting .ahead g superseded)
    (hshown : ∀ snapshot, used = some snapshot → c.session.current = some snapshot) :
    Acted c e n t ((c.noting e).sendFirst n r used) := by
  unfold sendFirst send
  cases h : authorize r (used.map (·.credentials)) with
  | ok signed => exact .sendsFirst hr hdue hshown h
  | error error => exact .ends (surface_ended _ n error)

/-- A task that asked ahead of time has not sent anything yet. -/
theorem Hears.due {outcome : SingleFlight.Outcome} (htask : c.tasks[n]? = some t)
    (hr : t.request = .ok r) (h : Hears c n e .ahead g outcome) (used : Option Snapshot) :
    t.stage = .starting ∧ (used = none ∨ r.kind = .regular) ∨
      ∃ g superseded, t.stage = .waiting .ahead g superseded := by
  cases h with
  | atOnce asks answered =>
    obtain ⟨t', htask', hstage⟩ := asks.stage_cases
    rw [htask] at htask'
    cases htask'
    rcases hstage with hwait | ⟨⟨-, hstart⟩ | ⟨hother, -⟩, r', hr', hkind⟩
    · exact Or.inr ⟨_, _, hwait⟩
    · rw [hr] at hr'
      cases hr'
      exact Or.inl ⟨hstart, Or.inr hkind⟩
    · cases hother
  | landed event step task stage =>
    rw [htask] at task
    cases task
    exact Or.inr ⟨_, _, stage⟩

theorem proceed_acted {outcome : SingleFlight.Outcome} (htask : c.tasks[n]? = some t)
    (hr : t.request = .ok r) (h : Hears c n e occasion g outcome) :
    Acted c e n t ((c.noting e).proceed n r occasion outcome) := by
  unfold proceed
  cases outcome with
  | error refusal => exact .ends (expel_ended _ n _)
  | ok fresh =>
    cases occasion with
    | ahead =>
      refine sendFirst_acted hr (h.due htask hr _) fun snapshot hcurrent => ?_
      rw [← hcurrent, noting_session]
    | refused =>
      show Acted c e n t ((c.noting e).send n r (some fresh) .resent)
      unfold send
      cases hsigned : authorize r (some fresh) with
      | ok signed => exact .sendsAgain hr h hsigned
      | error error => exact .ends (surface_ended _ n error)

theorem ask_acted (hs : c.desk.Sound) (htask : c.tasks[n]? = some t) (hr : t.request = .ok r)
    (hasks : Asks c n e occasion g) : Acted c e n t ((c.noting e).ask n r occasion g) := by
  unfold ask
  obtain ⟨reply, f, hask, hasked⟩ := SingleFlight.ask_spec hs n g
  rw [noting_desk, hask]
  have hanswer : (c.desk.ask n g).1 = reply := by rw [hask]
  have hsame : ({ c.noting e with desk := c.desk } : Client) = c.noting e := by cases e <;> rfl
  cases hasked with
  | signedOut state =>
    simp only [hsame]
    exact proceed_acted htask hr (.atOnce hasks hanswer)
  | advanced idle state current ne =>
    simp only [hsame]
    exact proceed_acted htask hr (.atOnce hasks hanswer)
  | joined state under => exact .joins hasks under
  | launched idle state current => exact .launches hasks idle state current

/-- While there are credentials, a regular request is sent with them, unless they have to be
replaced first. -/
theorem begin_of_signedIn {snapshot : Snapshot} (hkind : r.kind = .regular)
    (hcurrent : c.session.current = some snapshot) :
    c.begin n r = if c.isDue snapshot.credentials then c.ask n r .ahead snapshot.generation
      else c.sendFirst n r (some snapshot) := by
  simp only [begin, hkind, hcurrent]

/-- A task begins. -/
theorem begin_acted {place : Nat} (hs : c.desk.Sound)
    (hstep : c.ready[place]? = some (.start n)) (htask : c.tasks[n]? = some t)
    (hr : t.request = .ok r) (hstage : t.stage = .starting) :
    Acted c (.go place) n t ((c.noting (.go place)).begin n r) := by
  have hanonymous : Acted c (.go place) n t ((c.noting (.go place)).sendFirst n r none) :=
    sendFirst_acted hr (Or.inl ⟨hstage, Or.inl rfl⟩) fun snapshot hused => by cases hused
  unfold begin
  split
  · rename_i hkind
    split
    · rename_i snapshot hcurrent
      split
      · rename_i hdue
        exact ask_acted hs htask hr (.ahead hstep htask hr hstage hkind hcurrent hdue)
      · refine sendFirst_acted hr (Or.inl ⟨hstage, Or.inr hkind⟩) fun used hused => ?_
        rw [← hused]
        exact hcurrent
    · exact hanonymous
  · exact hanonymous

end acted

/-! ### Replies -/

theorem ofResponse_eq_expired_iff {response : Http.Response} :
    CallError.ofResponse response = .authorizationExpired ↔ response.status = 401 := by
  unfold CallError.ofResponse CallError.ofStatus
  split
  · simp [*]
  · split <;> simp [*]

/-- What a refusal looks like. -/
theorem result_eq_expired_iff {reply : Reply} :
    reply.result = .error (.failed .authorizationExpired) ↔
      ∃ response, reply = .response response ∧ response.status = 401 := by
  cases reply with
  | crash => simp [Reply.result]
  | fault f => simp [Reply.result]
  | response response =>
    by_cases hsuccess : response.isSuccess = true
    · have hstatus : response.status ≠ 401 := by
        intro h
        simp [Http.Response.isSuccess, h] at hsuccess
      simp [Reply.result, hsuccess, hstatus]
    · simp [Reply.result, hsuccess, ofResponse_eq_expired_iff]

section replies

variable {c : Client} {n id : Nat} {t : Task} {r : Http.Request} {reply : Reply}

/-- A success completes the task that waits for it. -/
theorem receive_of_ok {response : Http.Response} (hawaits : t.stage.awaitsReply = true)
    (hresult : reply.result = .ok response) :
    c.receive n t r reply = c.complete n t.purpose response := by
  obtain ⟨used, hstage⟩ | hstage := Stage.awaitsReply_iff.mp hawaits
  · simp only [receive, hresult, hstage]
  · simp only [receive, hresult, hstage]

/-- What a task has sent first is refused. -/
theorem receive_of_refused {used : Option Snapshot} {response : Http.Response}
    (hstage : t.stage = .sent used) (hstatus : response.status = 401) :
    c.receive n t r (.response response) = c.refuse n r used := by
  have hresult := result_eq_expired_iff.mpr ⟨response, rfl, hstatus⟩
  simp only [receive, hresult, hstage]

/-- What a task has sent again is refused. -/
theorem receive_of_refusedAgain {response : Http.Response} (hstage : t.stage = .resent)
    (hstatus : response.status = 401) :
    c.receive n t r (.response response) = c.expel n .rejectedAgain := by
  have hresult := result_eq_expired_iff.mpr ⟨response, rfl, hstatus⟩
  simp only [receive, hresult, hstage]

/-- A failure that is no refusal comes to the surface. -/
theorem receive_of_failure {error : CallError} (hresult : reply.result = .error (.failed error))
    (hother : error ≠ .authorizationExpired) : c.receive n t r reply = c.surface n error := by
  cases error with
  | authorizationExpired => exact absurd rfl hother
  | _ => simp only [receive, hresult]

/-- The service has refused what a task has sent first. -/
theorem refuse_acted {used : Option Snapshot} {response : Http.Response} (hs : c.desk.Sound)
    (hawaited : c.awaiting.lookup id = some (.task n)) (htask : c.tasks[n]? = some t)
    (hr : t.request = .ok r) (hstage : t.stage = .sent used) (hstatus : response.status = 401) :
    Acted c (.reply id (.response response)) n t
      ((c.noting (.reply id (.response response))).refuse n r used) := by
  unfold refuse
  cases hkind : r.kind with
  | refresh => exact .ends (expel_ended _ n _)
  | signIn => exact .ends (expel_ended _ n _)
  | regular =>
    cases used with
    | none =>
      obtain ⟨o, hended⟩ := rejectAnonymous_ended (c.noting (.reply id (.response response))) n
      exact .ends hended
    | some snapshot => exact ask_acted hs htask hr (.refused hawaited htask hr hstage hkind hstatus)

/-- A reply arrives for a task that waits for one. -/
theorem receive_acted (hs : c.desk.Sound) (hawaited : c.awaiting.lookup id = some (.task n))
    (htask : c.tasks[n]? = some t) (hr : t.request = .ok r) (hawaits : t.stage.awaitsReply = true) :
    Acted c (.reply id reply) n t ((c.noting (.reply id reply)).receive n t r reply) := by
  cases hresult : reply.result with
  | ok response =>
    obtain ⟨o, hended⟩ := complete_ended (c.noting (.reply id reply)) n t.purpose response
    rw [receive_of_ok hawaits hresult]
    exact .ends hended
  | error o =>
    rcases result_error hresult with rfl | ⟨e, rfl, -⟩
    · simp only [receive, hresult]
      exact .ends (finish_ended _ n _)
    · by_cases hexpired : e = .authorizationExpired
      · subst hexpired
        obtain ⟨response, rfl, hstatus⟩ := result_eq_expired_iff.mp hresult
        obtain ⟨used, hstage⟩ | hstage := Stage.awaitsReply_iff.mp hawaits
        · rw [receive_of_refused hstage hstatus]
          exact refuse_acted hs hawaited htask hr hstage hstatus
        · rw [receive_of_refusedAgain hstage hstatus]
          exact .ends (expel_ended _ n _)
      · rw [receive_of_failure hresult hexpired]
        exact .ends (surface_ended _ n e)

end replies

/-! ### One event -/

/-- What becomes of a client in an event. -/
inductive Happened (c : Client) (e : Event) : Client → Prop where
  /-- Nothing that is any task's business. -/
  | idle {c' : Client} (beside : Beside c c') : Happened c e c'
  /-- The event is noted, but nobody who could act is concerned. -/
  | ignored (quiet : c.calling? e = none) (noReply : e.reply? = none)
      (nobody : ∀ n t, c.tasks[n]? = some t → Concerns c n t e →
        t.stage ≠ .starting ∧ ∃ error, t.request = .error error) : Happened c e (c.noting e)
  /-- A task is handed over. -/
  | spawned (purpose : Purpose) (request : Except Http.BuildError Http.Request) :
      Happened c e (c.spawn purpose request)
  | aborted (n : Nat) : Happened c e (c.abort n)
  /-- A task does something. -/
  | acted {n : Nat} {t : Task} {c' : Client} (task : c.tasks[n]? = some t)
      (concerns : Concerns c n t e) (quiet : c.calling? e = none) (acted : Acted c e n t c') :
      Happened c e c'
  /-- A flight begins, and its request is sent. -/
  | departs {place : Nat} {g : Generation} {current : Credentials} {r : Http.Request}
      (event : e = .go place) (step : c.ready[place]? = some (.launch g current))
      (request : c.options.endpoint.request current = .ok r) :
      Happened c e ((c.noting e).transmit (.flight g) r)
  /-- A flight ends: its request cannot be built, or has got its reply. -/
  | lands {g : Generation} {result : Except CallError Credentials}
      (calling : c.calling? e = some g) : Happened c e ((c.noting e).settleFlight g result)

theorem go_happened {c : Client} (hs : c.desk.Sound) {place : Nat} {s : Step}
    (hstep : c.ready[place]? = some s) (hanswer : ∀ id reply, s ≠ .answer id reply) :
    Happened c (.go place) ((c.noting (.go place)).perform s) := by
  have hcalling : c.calling? (.go place) = s.launched? := by simp [calling?, hstep]
  cases s with
  | start n =>
    -- only a task that has not begun is concerned
    have hignored : (∀ t, c.tasks[n]? = some t → t.stage ≠ .starting) →
        Happened c (.go place) (c.noting (.go place)) := fun hnobody => by
      refine .ignored hcalling rfl fun n' t htask hconcerns => ?_
      cases hconcerns with
      | start step stage =>
        cases hstep.symm.trans step
        exact absurd stage (hnobody t htask)
      | wake step stage => cases hstep.symm.trans step
    simp only [perform, noting_tasks]
    split
    · rename_i purpose r htask
      exact .acted htask (.start hstep rfl) hcalling (begin_acted hs hstep htask rfl rfl)
    · rename_i purpose error htask
      exact .acted htask (.start hstep rfl) hcalling (.ends (finish_ended _ n _))
    · rename_i hnot herror
      refine hignored fun t htask hstage => ?_
      obtain ⟨purpose, request, stage⟩ := t
      cases hstage
      cases request with
      | ok r => exact hnot _ _ htask
      | error error => exact herror _ _ htask
  | launch g current =>
    simp only [perform, noting_options]
    split
    · rename_i r hr
      exact .departs rfl hstep hr
    · exact .lands hcalling
  | answer id reply => exact absurd rfl (hanswer id reply)
  | wake n outcome =>
    -- only a task that waits and has a request is concerned
    have hignored : (∀ t r occasion g superseded, c.tasks[n]? = some t → t.request = .ok r →
          t.stage ≠ .waiting occasion g superseded) →
        Happened c (.go place) (c.noting (.go place)) := fun hnobody => by
      refine .ignored hcalling rfl fun n' t htask hconcerns => ?_
      cases hconcerns with
      | start step stage => cases hstep.symm.trans step
      | wake step stage =>
        cases hstep.symm.trans step
        refine ⟨by simp [stage], ?_⟩
        cases hr : t.request with
        | ok r => exact absurd stage (hnobody t r _ _ _ htask hr)
        | error error => exact ⟨error, rfl⟩
    simp only [perform, task?, noting_tasks]
    split
    · rename_i purpose request occasion refused superseded r htask
      obtain ⟨ht, hr⟩ := task?_eq_some (c := c) htask
      refine .acted ht (.wake hstep rfl) hcalling ?_
      cases superseded with
      | true => exact ask_acted hs ht hr (.again hstep ht rfl)
      | false => exact proceed_acted ht hr (.landed rfl hstep ht rfl)
    · rename_i hnot
      refine hignored fun t r occasion g superseded htask hr hstage => ?_
      obtain ⟨purpose, request, stage⟩ := t
      cases hstage
      cases hr
      exact hnot purpose (.ok r) occasion g superseded r (by simp only [htask])

theorem reply_happened {c : Client} (hs : c.desk.Sound)
    (hawaits : ∀ id n, c.awaiting.lookup id = some (.task n) →
      ∃ t r, c.tasks[n]? = some t ∧ t.request = .ok r ∧ t.stage.awaitsReply = true)
    (id : Nat) (reply : Reply) :
    Happened c (.reply id reply) (c.perform (.answer id reply)) := by
  simp only [perform]
  split
  · rename_i g hawaited
    exact .lands (by simp [calling?, hawaited, Owner.flight?])
  · rename_i n hawaited
    have hquiet : c.calling? (.reply id reply) = none := by
      simp [calling?, hawaited, Owner.flight?]
    obtain ⟨t, r, ht, hr, hstage⟩ := hawaits id n hawaited
    have htask : c.task? n = some (t, r) := by
      simp only [task?, ht, hr]
      split
      · rename_i hdone
        rw [hdone] at hstage
        cases hstage
      · rename_i heq _
        cases heq
        rfl
      · rename_i heq _
        cases heq
    rw [htask]
    exact .acted ht (.reply hawaited hstage) hquiet (receive_acted hs hawaited ht hr hstage)
  · exact .idle (.refl c)

/-- **Every event does one of these things.** -/
theorem happened_spec {c : Client} (hs : c.desk.Sound)
    (hready : ∀ id reply, .answer id reply ∉ c.ready)
    (hawaits : ∀ id n, c.awaiting.lookup id = some (.task n) →
      ∃ t r, c.tasks[n]? = some t ∧ t.request = .ok r ∧ t.stage.awaitsReply = true)
    (e : Event) : Happened c e (c.step e) := by
  cases e with
  | spawn request => exact .spawned .exchange request
  | signIn email password => exact .spawned .signIn _
  | signOut => exact .idle (.signOut c)
  | abort n => exact .aborted n
  | go place =>
    simp only [step]
    split
    · rename_i s hstep
      refine go_happened hs hstep fun id reply heq => hready id reply ?_
      rw [← heq]
      exact List.mem_of_getElem? hstep
    · exact .idle (.refl c)
  | reply id reply => exact reply_happened hs hawaits id reply
  | clock now => exact .idle ⟨rfl, rfl, rfl, rfl, rfl, rfl, rfl⟩
  | store store => exact .idle (.setSession c _)

/-! ### Single steps -/

section equations

variable {c : Client} {n id place : Nat} {purpose : Purpose} {r : Http.Request} {g : Generation}

theorem step_start (hstep : c.ready[place]? = some (.start n))
    (htask : c.tasks[n]? = some ⟨purpose, .ok r, .starting⟩) :
    c.step (.go place) = (c.noting (.go place)).begin n r := by
  simp only [step, hstep, perform, htask]
  rfl

theorem step_wake {outcome : SingleFlight.Outcome} {occasion : Occasion} {superseded : Bool}
    (hstep : c.ready[place]? = some (.wake n outcome))
    (htask : c.tasks[n]? = some ⟨purpose, .ok r, .waiting occasion g superseded⟩) :
    c.step (.go place) =
      if superseded then (c.noting (.go place)).ask n r occasion g
      else (c.noting (.go place)).proceed n r occasion outcome := by
  simp only [step, hstep, perform, task?, htask]
  rfl

theorem step_launch {current : Credentials} (hstep : c.ready[place]? = some (.launch g current)) :
    c.step (.go place) =
      match c.options.endpoint.request current with
      | .ok r => (c.noting (.go place)).transmit (.flight g) r
      | .error e => (c.noting (.go place)).settleFlight g (.error e) := by
  simp only [step, hstep, perform]
  rfl

theorem step_reply {reply : Reply} {stage : Stage} (hlive : stage ≠ .done)
    (hawaited : c.awaiting.lookup id = some (.task n))
    (htask : c.tasks[n]? = some ⟨purpose, .ok r, stage⟩) :
    c.step (.reply id reply) =
      (c.noting (.reply id reply)).receive n ⟨purpose, .ok r, stage⟩ r reply := by
  have htask' : c.task? n = some (⟨purpose, .ok r, stage⟩, r) := by
    cases stage with
    | done => exact absurd rfl hlive
    | _ => simp only [task?, htask]
  simp only [step, perform, hawaited, htask']
  rfl

theorem step_flightReply {reply : Reply} (hawaited : c.awaiting.lookup id = some (.flight g)) :
    c.step (.reply id reply) =
      (c.noting (.reply id reply)).settleFlight g (c.flightResult reply) := by
  simp only [step, perform, hawaited]
  rfl

end equations

end Client

end SessionKeeper
