import SessionKeeper.Proofs.Client.Verdicts

/-! # What a task is to send, and with whose credentials

`Deeds` says that a task sends its request, but not from which turn of the task one could
have known it.  Here a sending is known beforehand (`Attempts`).

* Sign-ins and refreshes show no credentials.
* A regular request shows those of the session when it is sent for the first time.  That is
  when it begins, or when it has heard of newer credentials than those that were about to
  expire.
* When it is sent again, it shows the credentials of which it has heard.

From an attempt one knows what the event does (`Attempts.step_eq`): the request is sent, or
the task ends because the credentials cannot stand in a request.  Nothing is sent without an
attempt (`attempted_of_sends`).

No more of Mathlib than the imports bring. -/

namespace SessionKeeper

/-- Whoever asks for credentials newer than those in use is not answered at once. -/
theorem SingleFlight.not_answered {f : SingleFlight} {used : Snapshot} (hs : f.Sound)
    (hcurrent : f.session.current = some used) (caller : Nat) (outcome : SingleFlight.Outcome) :
    (f.ask caller used.generation).1 ≠ .answered outcome := by
  intro hanswered
  obtain ⟨reply, f', hask, hasked⟩ := SingleFlight.ask_spec hs caller used.generation
  rw [hask] at hanswered
  cases hasked with
  | signedOut state =>
    rw [hs.coherent.current_of_loggedOut state] at hcurrent
    cases hcurrent
  | advanced idle state current ne =>
    rw [hcurrent] at current
    cases current
    exact ne rfl
  | joined state under => cases hanswered
  | launched idle state current => cases hanswered

namespace Client

/-! ### Turns -/

/-- In an event task `n` begins, whose request is `r`. -/
structure Starts (n : Nat) (r : Http.Request) (c : Client) (e : Event) : Prop where
  step : ∃ place, e = .go place ∧ c.ready[place]? = some (.start n)
  task : ∃ purpose, c.tasks[n]? = some ⟨purpose, .ok r, .starting⟩

/-- In an event task `n` begins, whose request `r` is regular, and finds these credentials
in use. -/
structure Checks (n : Nat) (r : Http.Request) (used : Snapshot) (c : Client) (e : Event) :
    Prop where
  starts : Starts n r c e
  kind : r.kind = .regular
  current : c.session.current = some used

/-- In an event task `n` is to send its request `r`, with these credentials, and to come to
a stage thereby. -/
inductive Attempts (n : Nat) (r : Http.Request) (c : Client) (e : Event) :
    Option Credentials → Stage → Prop where
  /-- It begins, and has nothing to do with the session. -/
  | bare (starts : Starts n r c e) (kind : r.kind ≠ .regular) : Attempts n r c e none (.sent none)
  /-- It begins, and the credentials in use, if there are any, will last. -/
  | begins (starts : Starts n r c e) (kind : r.kind = .regular)
      (lasting : ∀ used, c.session.current = some used → c.isDue used.credentials = false) :
      Attempts n r c e c.session.credentials? (.sent c.session.current)
  /-- It has asked ahead of time, and hears that there are newer credentials. -/
  | ahead {t : Task} {g : Generation} {x : Credentials} (task : c.tasks[n]? = some t)
      (request : t.request = .ok r) (hears : Hears c n e .ahead g (.ok x)) :
      Attempts n r c e c.session.credentials? (.sent c.session.current)
  /-- It has asked after a refusal, and hears of newer credentials. -/
  | again {t : Task} {g : Generation} {fresh : Credentials} (task : c.tasks[n]? = some t)
      (request : t.request = .ok r) (hears : Hears c n e .refused g (.ok fresh)) :
      Attempts n r c e (some fresh) .resent

variable {c : Client} {e : Event} {n : Nat} {t : Task} {r : Http.Request} {occasion : Occasion}
  {g : Generation} {used : Option Credentials} {stage : Stage}

/-! ### What a question comes to -/

/-- Whoever asks hears an outcome at once, or stands in line. -/
theorem Asks.hears_or_waits (hc : c.Ledger) (h : Asks c n e occasion g) :
    (∃ outcome, Hears c n e occasion g outcome) ∨
      ∃ t superseded, c.tasks[n]? = some t ∧
        (c.step e).tasks[n]? = some { t with stage := .waiting occasion g superseded } ∧
        (c.step e).sentBy (.task n) = c.sentBy (.task n) ∧
        ∃ flight, (c.step e).desk.flight = some flight ∧ n ∈ flight.waiters := by
  obtain ⟨t, r, htask, -, hstep⟩ := h.step_eq hc
  obtain ⟨reply, f, hask, hasked⟩ := SingleFlight.ask_spec hc.desk n g
  have hanswer : (c.desk.ask n g).1 = reply := by rw [hask]
  rw [hstep]
  simp only [ask, noting_desk, hask]
  cases hasked with
  | signedOut state => exact Or.inl ⟨_, .atOnce h hanswer⟩
  | advanced idle state current ne => exact Or.inl ⟨_, .atOnce h hanswer⟩
  | @joined flight state under =>
    obtain ⟨hcome, hsent, -⟩ := file_waits c e htask
      (.waiting occasion g (flight.generation.isOlder g))
      { c.desk with flight := some { flight with waiters := flight.waiters ++ [n] } }
    exact Or.inr ⟨t, _, htask, hcome, hsent, _, rfl, by simp⟩
  | launched idle state current =>
    obtain ⟨hcome, hsent, -⟩ := file_waits c e htask (.waiting occasion g false)
      ⟨c.session.publish (.refreshing g), some ⟨g, [n]⟩⟩
    exact Or.inr ⟨t, _, htask, hcome, hsent, _, rfl, by simp⟩

/-- A task that hears that there are no newer credentials sends nothing. -/
theorem Hears.unsent {refusal : Refusal} (hc : c.Ledger)
    (h : Hears c n e occasion g (.error refusal)) :
    (c.step e).tasks[n]?.map (·.stage) = some .done ∧
      (c.step e).sentBy (.task n) = c.sentBy (.task n) := by
  obtain ⟨t, r, htask, -, hstep⟩ := h.step_eq hc
  obtain ⟨hcome, hsent, -⟩ := Ended.own c e (expel_ended _ n refusal.toCallError) htask
  rw [hstep, proceed]
  refine ⟨?_, hsent⟩
  show ((((c.noting e).expel n refusal.toCallError).file n).task).map _ = _
  rw [hcome]
  rfl

/-- Whoever hears an outcome has sent his request before exactly if he was refused. -/
theorem Hears.sentBy_eq_nil_iff {outcome : SingleFlight.Outcome} (hc : c.Ledger)
    (h : Hears c n e occasion g outcome) : c.sentBy (.task n) = [] ↔ occasion = .ahead := by
  obtain ⟨t, r, htask, hr, -⟩ := h.step_eq hc
  exact (h.showed htask hr ((hc.kept n t htask).showed r hr)).eq_nil_iff

/-- Whoever sends something after a question has heard of newer credentials. -/
theorem Asks.hears_of_sends (hc : c.Ledger) (h : Asks c n e occasion g)
    (hsent : (c.step e).sentBy (.task n) ≠ c.sentBy (.task n)) :
    ∃ x, Hears c n e occasion g (.ok x) := by
  rcases h.hears_or_waits hc with ⟨outcome, hhears⟩ | ⟨t, superseded, -, -, hsame, -⟩
  · cases outcome with
    | ok x => exact ⟨x, hhears⟩
    | error refusal => exact absurd (hhears.unsent hc).2 hsent
  · exact absurd hsame hsent

/-! ### From an attempt to its event -/

theorem Starts.step_eq (h : Starts n r c e) : c.step e = (c.noting e).begin n r := by
  obtain ⟨⟨place, rfl, hstep⟩, purpose, htask⟩ := h
  exact step_start hstep htask

/-- A task that begins has not sent anything. -/
theorem Starts.unsent (hc : c.Ledger) (h : Starts n r c e) : c.sentBy (.task n) = [] := by
  obtain ⟨purpose, htask⟩ := h.task
  have hshowed := (hc.kept n _ htask).showed r rfl
  exact (hshowed.of_due (Or.inl ⟨rfl, Or.inl rfl⟩)).1

/-- A regular request whose credentials are about to expire asks for newer ones. -/
theorem Checks.asks {used : Snapshot} (h : Checks n r used c e)
    (hdue : c.isDue used.credentials = true) : Asks c n e .ahead used.generation := by
  obtain ⟨⟨⟨place, rfl, hstep⟩, purpose, htask⟩, hkind, hcurrent⟩ := h
  exact .ahead hstep htask rfl rfl hkind hcurrent hdue

/-- It is not answered, so it stands in line. -/
theorem Checks.waits {used : Snapshot} (hc : c.Ledger) (h : Checks n r used c e)
    (hdue : c.isDue used.credentials = true) :
    ∃ t superseded, c.tasks[n]? = some t ∧ t.request = .ok r ∧
      (c.step e).tasks[n]? =
        some { t with stage := .waiting .ahead used.generation superseded } ∧
      (c.step e).sentBy (.task n) = c.sentBy (.task n) ∧
      ∃ flight, (c.step e).desk.flight = some flight ∧ n ∈ flight.waiters := by
  obtain ⟨purpose, htask⟩ := h.starts.task
  rcases (h.asks hdue).hears_or_waits hc with ⟨outcome, hhears⟩ | ⟨t, superseded, ht, hlater⟩
  · cases hhears with
    | atOnce asks answered =>
      exact absurd answered (SingleFlight.not_answered hc.desk h.current n outcome)
    | landed event step task stage =>
      -- it has only just begun
      cases htask.symm.trans task
      cases stage
  · cases htask.symm.trans ht
    exact ⟨_, superseded, htask, rfl, hlater⟩

/-- **From an attempt one knows what the event does.** -/
theorem Attempts.step_eq (hc : c.Ledger) (h : Attempts n r c e used stage) :
    c.step e = (c.noting e).send n r used stage := by
  cases h with
  | bare starts kind =>
    rw [starts.step_eq, begin]
    cases hkind : r.kind with
    | regular => exact absurd hkind kind
    | signIn => rfl
    | refresh => rfl
  | begins starts kind lasting =>
    rw [starts.step_eq]
    cases hcurrent : c.session.current with
    | none =>
      have hnone : (c.noting e).session.current = none := by rw [noting_session, hcurrent]
      simp only [begin, kind, hnone, Session.credentials?, hcurrent]
      rfl
    | some snapshot =>
      have hsome : (c.noting e).session.current = some snapshot := by rw [noting_session, hcurrent]
      have hlasting : ¬ (c.noting e).isDue snapshot.credentials = true := by
        obtain ⟨place, rfl, -⟩ := starts.step
        rw [Bool.not_eq_true]
        exact lasting snapshot hcurrent
      rw [begin_of_signedIn kind hsome, if_neg hlasting, Session.credentials?, hcurrent]
      rfl
  | ahead task request hears =>
    obtain ⟨t', r', htask, hr, hstep⟩ := hears.step_eq hc
    cases task.symm.trans htask
    cases request.symm.trans hr
    rw [hstep, proceed, sendFirst, noting_session]
    rfl
  | again task request hears =>
    obtain ⟨t', r', htask, hr, hstep⟩ := hears.step_eq hc
    cases task.symm.trans htask
    cases request.symm.trans hr
    rw [hstep, proceed]

/-- Whoever is to send a request has one. -/
theorem Attempts.task (h : Attempts n r c e used stage) :
    ∃ t, c.tasks[n]? = some t ∧ t.request = .ok r := by
  cases h with
  | bare starts kind =>
    obtain ⟨purpose, htask⟩ := starts.task
    exact ⟨_, htask, rfl⟩
  | begins starts kind lasting =>
    obtain ⟨purpose, htask⟩ := starts.task
    exact ⟨_, htask, rfl⟩
  | ahead task request hears => exact ⟨_, task, request⟩
  | again task request hears => exact ⟨_, task, request⟩

/-- The request is sent, with the credentials if there are any. -/
theorem Attempts.sends {signed : Http.Request} (hc : c.Ledger)
    (h : Attempts n r c e used stage) (hauthorized : authorize r used = .ok signed) :
    (c.step e).sentBy (.task n) = c.sentBy (.task n) ++ [signed] ∧
      (c.step e).settled = c.settled ∧ (c.step e).desk = c.desk := by
  obtain ⟨t, htask, -⟩ := h.task
  obtain ⟨-, hsent, -⟩ := file_sends c e htask stage signed
  rw [h.step_eq hc, send, hauthorized]
  exact ⟨hsent, noting_settled c e, noting_desk c e⟩

/-- Whoever ends sends nothing by that. -/
theorem Ended.sent {c' : Client} {o : Client.Outcome} (h : Ended c n o c') : c'.sent = c.sent := by
  obtain ⟨hbeside⟩ := h
  exact hbeside.sent

/-- The credentials cannot stand in a request: nothing is sent, and the task ends. -/
theorem Attempts.fails {error : CallError} (hc : c.Ledger) (h : Attempts n r c e used stage)
    (hauthorized : authorize r used = .error error) :
    (c.step e).sent = c.sent ∧ (c.step e).settled = c.settled ++ [(n, .failed error)] ∧
      (c.step e).desk = c.desk := by
  have hsent : ((c.noting e).surface n error).sent = c.sent :=
    (surface_ended (c.noting e) n error).sent.trans (noting_sent c e)
  rw [h.step_eq hc, send, hauthorized]
  exact ⟨hsent, by rw [surface_settled, noting_settled], by rw [surface_desk, noting_desk]⟩

/-- Neither is anything to the session, nor to the flight under way. -/
theorem Attempts.desk_eq (hc : c.Ledger) (h : Attempts n r c e used stage) :
    (c.step e).desk = c.desk := by
  cases hauthorized : authorize r used with
  | ok signed => exact (h.sends hc hauthorized).2.2
  | error error => exact (h.fails hc hauthorized).2.2

/-! ### Nothing is sent without an attempt -/

/-- A task that has not sent anything yet, and does. -/
theorem attempts_of_due (hc : c.Ledger) (htask : c.tasks[n]? = some t) (hr : t.request = .ok r)
    (hconcerns : Concerns c n t e)
    (hdue : t.stage = .starting ∨ ∃ g superseded, t.stage = .waiting .ahead g superseded)
    (hsent : (c.step e).sentBy (.task n) ≠ c.sentBy (.task n)) :
    ∃ used stage, Attempts n r c e used stage := by
  cases hconcerns with
  | @start place step stage =>
    obtain ⟨purpose, request, stage'⟩ := t
    cases hr
    cases stage
    have hstarts : Starts n r c (.go place) := ⟨⟨place, rfl, step⟩, purpose, htask⟩
    by_cases hkind : r.kind = .regular
    · refine ⟨_, _, .begins hstarts hkind fun used hcurrent => ?_⟩
      cases hexpires : c.isDue used.credentials with
      | false => rfl
      | true =>
        -- it would have to wait
        have hchecks : Checks n r used c (.go place) := ⟨hstarts, hkind, hcurrent⟩
        obtain ⟨-, -, -, -, -, hsame, -⟩ := hchecks.waits hc hexpires
        exact absurd hsame hsent
    · exact ⟨_, _, .bare hstarts hkind⟩
  | @wake place outcome occasion g superseded step stage =>
    have hahead : occasion = .ahead := by
      rw [stage] at hdue
      rcases hdue with heq | ⟨g', superseded', heq⟩
      · cases heq
      · cases heq
        rfl
    subst hahead
    cases superseded with
    | true =>
      obtain ⟨x, hhears⟩ := (Asks.again step htask stage).hears_of_sends hc hsent
      exact ⟨_, _, .ahead htask hr hhears⟩
    | false =>
      have hhears : Hears c n (.go place) .ahead g outcome := .landed rfl step htask stage
      cases outcome with
      | ok x => exact ⟨_, _, .ahead htask hr hhears⟩
      | error refusal => exact absurd (hhears.unsent hc).2 hsent
  | reply awaited awaits =>
    -- whoever waits for a reply has sent something before
    rcases hdue with hstage | ⟨g, superseded, hstage⟩
    · rw [hstage] at awaits
      cases awaits
    · rw [hstage] at awaits
      cases awaits

theorem attempts_of_sends (hc : c.Ledger)
    (hsent : (c.step e).sentBy (.task n) ≠ c.sentBy (.task n)) :
    ∃ r used stage, Attempts n r c e used stage := by
  cases fate_spec hc e n with
  | same file => exact absurd (congrArg File.sent file) hsent
  | spawned stage vacant file =>
    have hbefore := hc.vacant n (List.getElem?_eq_none_iff.mp vacant)
    have hnil : c.sentBy (.task n) = [] := congrArg File.sent hbefore
    have hnil' : (c.step e).sentBy (.task n) = [] := congrArg File.sent file
    rw [hnil, hnil'] at hsent
    exact absurd rfl hsent
  | aborted file => exact absurd (congrArg File.sent file) hsent
  | @acted t task concerns acted =>
    have hown : ((c.step e).file n).sent ≠ c.sentBy (.task n) := hsent
    generalize hstep : c.step e = c' at acted hown
    cases acted with
    | sendsFirst request due shown authorized =>
      obtain ⟨used, stage, hattempts⟩ :=
        attempts_of_due hc task request concerns (due.imp_left And.left) hsent
      exact ⟨_, used, stage, hattempts⟩
    | sendsAgain request hears authorized => exact ⟨_, _, _, .again task request hears⟩
    | joins asks under =>
      obtain ⟨-, hsame, -⟩ := file_waits c e task _ _
      exact absurd hsame hown
    | launches asks idle state now =>
      obtain ⟨-, hsame, -⟩ := file_waits c e task _ _
      exact absurd hsame hown
    | ends ended =>
      obtain ⟨-, hsame, -⟩ := Ended.own c e ended task
      exact absurd hsame hown

/-- **Whatever a task sends was to be sent.** -/
theorem attempted_of_sends (hc : c.Ledger)
    (hsent : (c.step e).sentBy (.task n) ≠ c.sentBy (.task n)) :
    ∃ r used stage signed, Attempts n r c e used stage ∧ authorize r used = .ok signed ∧
      (c.step e).sentBy (.task n) = c.sentBy (.task n) ++ [signed] := by
  obtain ⟨r, used, stage, hattempts⟩ := attempts_of_sends hc hsent
  cases hauthorized : authorize r used with
  | ok signed =>
    obtain ⟨hlist, -⟩ := hattempts.sends hc hauthorized
    exact ⟨r, used, stage, signed, hattempts, hauthorized, hlist⟩
  | error error =>
    -- an attempt that fails sends nothing
    obtain ⟨hsame, -⟩ := hattempts.fails hc hauthorized
    rw [sentBy, hsame] at hsent
    exact absurd rfl hsent

end Client

end SessionKeeper
