import SessionKeeper.Proofs.Client.Batch

/-! # How a batch goes on

There are three kinds of things that happen to a batch of refused requests.

* A task sends its request (`Course.sends`), or ends (`Course.ends`).  Then it is one
  leg further, and no other task has changed.
* A task asks for newer credentials (`Course.asks`).  What it gets depends on how far
  the session has come: it launches the flight, joins the flight under way, or hears
  at once what the flight came to.
* A flight lands (`Course.lands`).  This is the one turn, from `during` to `renewed` or
  `lost`.

Core Lean 4 only; no Mathlib. -/

namespace SessionKeeper

open SingleFlight (Flight Asked Landed)

namespace Client

/-! ### The beginning -/

/-- A batch that was dispatched is at the beginning of its course. -/
theorem Course.start {b : Batch} {c : Client} (h : Dispatched b c) (hc : c.Ledger) :
    Course b c c false := by
  have hleg : ∀ n ∈ b.members, ∃ r stage, c.tasks[n]? = some ⟨.exchange, .ok r, stage⟩ ∧
      r.kind = .regular ∧ stage.waits = false ∧ c.outcomesOf n = [] ∧
      Leg b (b.result c) n r false stage (c.sentBy (.task n)) [] := by
    intro n hn
    obtain ⟨r, stage, htask, hkind, hstage⟩ := h.task n hn
    -- what such a task has sent follows from its stage
    have hkept := hc.kept n _ htask
    have hlive : stage ≠ .done := by rcases hstage with rfl | rfl <;> simp
    have houtcomes : c.outcomesOf n = [] := hkept.outcomes hlive
    have hshowed : Showed r stage (c.sentBy (.task n)) := hkept.showed r rfl
    refine ⟨r, stage, htask, hkind, ?_, houtcomes, ?_⟩
    · rcases hstage with rfl | rfl <;> rfl
    · generalize c.sentBy (.task n) = sent at hshowed ⊢
      rcases hstage with rfl | rfl
      · cases hshowed
        exact .starting
      · cases hshowed with
        | sent kind authorized => exact .sent authorized
  refine ⟨rfl, rfl, .before ⟨h.current, rfl, rfl, rfl⟩ h.state h.boarding rfl, fun n hn => ?_,
    fun _ _ n hn hended => ?_, fun n hn t outcome ht hstage _ => ?_⟩
  · obtain ⟨r, stage, htask, hkind, -, houtcomes, leg⟩ := hleg n hn
    exact ⟨htask, hkind, by rw [show (c.file n).outcomes = [] from houtcomes]; exact leg⟩
  · obtain ⟨r, stage, -, -, -, houtcomes, -⟩ := hleg n hn
    exact absurd houtcomes hended
  · obtain ⟨r, stage, htask, -, hwaits, -⟩ := hleg n hn
    cases htask.symm.trans ht
    rw [show stage = _ from hstage] at hwaits
    cases hwaits

/-! ### A task goes on -/

section acts

variable {b : Batch} {c₀ c : Client} {landed : Bool} {e : Event} {n : Nat} {r : Http.Request}
  {stage : Stage}

/-- Nothing happens but that an event is noted. -/
theorem Course.noting (h : Course b c₀ c landed) (hquiet : c.calling? e = none) :
    Course b c₀ (c.noting e) landed where
  options := (noting_options c e).trans h.options
  notices := (noting_failureNotices c e).trans h.notices
  phase := h.phase.noting hquiet
  legs n hn := by
    rw [file_noting]
    exact (h.legs n hn).hear _
  told error herror n hn hended := by
    rw [noting_session]
    exact h.told error herror n hn (by rwa [show (c.noting e).outcomesOf n = c.outcomesOf n from
      congrArg File.outcomes (file_noting c e n)] at hended)
  wakes n hn t outcome ht hstage hmem := by
    rw [noting_tasks] at ht
    exact h.wakes n hn t outcome ht hstage (noting_ready_subset c e _ hmem)

/-- A task sends its request. -/
theorem Course.sends (h : Course b c₀ c landed) (hn : n ∈ b.members)
    (hquiet : c.calling? e = none) (htask : c.tasks[n]? = some ⟨.exchange, .ok r, stage⟩)
    (hkind : r.kind = .regular) {stage' : Stage} (hstage' : stage'.waits = false)
    {signed : Http.Request}
    (leg : Leg b (b.result c₀) n r landed stage' (c.sentBy (.task n) ++ [signed])
      (c.outcomesOf n)) :
    Course b c₀ (((c.noting e).setStage n stage').transmit (.task n) signed) landed := by
  obtain ⟨htask', hsent, houtcomes⟩ := file_sends c e htask stage' signed
  have hphase : Phase b c₀ (((c.noting e).setStage n stage').transmit (.task n) signed) landed := by
    refine (h.phase.noting hquiet).congr rfl rfl ?_ (fun _ _ hmem => hmem) rfl
    rw [departures_transmit]
    exact List.append_nil _
  have hsession :
      ((((c.noting e).setStage n stage').transmit (.task n) signed)).session = c.session :=
    noting_session c e
  refine h.of_one (e := e) (n := n) (noting_options c e) (noting_failureNotices c e) hphase
    (fun m hm => ?_) ⟨htask', hkind, by rw [hsent, houtcomes]; exact leg⟩ ?_
    (fun m outcome => noting_ready_subset c e _) fun t outcome ht hstage => ?_
  · rw [file_transmit, if_neg (by simpa using Ne.symm hm), file_setStage, if_neg hm]
  · rintro error herror (hprompted | hended)
    · rw [hsession]
      exact hprompted
    · rw [hsession]
      exact h.told error herror n hn fun hnil => hended (houtcomes.trans hnil)
  · -- it does not wait for a flight now
    cases htask'.symm.trans ht
    rw [show stage' = _ from hstage] at hstage'
    cases hstage'

/-- It is the turn of a task of the batch, whose first request was refused. -/
structure Turn (b : Batch) (c : Client) (e : Event) (n : Nat) (r first : Http.Request)
    (stage : Stage) : Prop where
  member : n ∈ b.members
  quiet : c.calling? e = none
  task : c.tasks[n]? = some ⟨.exchange, .ok r, stage⟩
  kind : r.kind = .regular
  sent : c.sentBy (.task n) = [first]
  outcomes : c.outcomesOf n = []
  authorized : authorize r (some b.used.credentials) = .ok first

variable {first : Http.Request}

/-- The flight has brought new credentials, and the request is sent with them. -/
theorem Course.resends (h : Course b c₀ c true) (turn : Turn b c e n r first stage)
    {new : Credentials} (returned : b.result c₀ = .ok new)
    (hfresh : Http.isFieldValue new.authorization = true) :
    Course b c₀
      ((c.noting e).send n r (some (new.keepRefreshToken (some b.used.credentials))) .resent)
      true := by
  -- the refresh token has no part in what a request carries
  have hagain : authorize r (some (new.keepRefreshToken (some b.used.credentials))) =
      authorize r (some new) := rfl
  have hsigned := authorize_of_isFieldValue (r := r) hfresh
  simp only [send, hagain, hsigned]
  refine h.sends turn.member turn.quiet turn.task turn.kind rfl ?_
  rw [turn.sent, turn.outcomes]
  exact .resent returned turn.authorized hsigned

/-- A task ends. -/
theorem Course.ends (h : Course b c₀ c landed)
    (htask : c.tasks[n]? = some ⟨.exchange, .ok r, stage⟩)
    (hkind : r.kind = .regular) {o : Client.Outcome} {c' : Client}
    (hended : Ended (c.noting e) n o c') (hnotices : c'.failureNotices = c.failureNotices)
    (hphase : Phase b c₀ c' landed)
    (htold : ∀ error, b.result c₀ = .error error → c'.session.prompted = true)
    (leg : Leg b (b.result c₀) n r landed .done (c.sentBy (.task n)) (c.outcomesOf n ++ [o])) :
    Course b c₀ c' landed := by
  obtain ⟨htask', hsent, houtcomes⟩ := hended.own c e htask
  have hfile := hended.file
  obtain ⟨hbeside⟩ := hended
  refine h.of_one (e := e) (n := n) (hbeside.options.trans (noting_options c e)) hnotices hphase
    (fun m hm => by rw [hfile, if_neg hm])
    ⟨htask', hkind, by rw [hsent, houtcomes]; exact leg⟩ (fun error herror _ => htold error herror)
    (fun m outcome hmem => noting_ready_subset c e _ (hbeside.ready ▸ hmem))
    fun t outcome ht hstage => ?_
  -- whoever has ended does not wait
  cases htask'.symm.trans ht
  cases hstage

/-- The flight has failed, and the task ends together with the session, which is over
already. -/
theorem Course.expels (h : Course b c₀ c true) (turn : Turn b c e n r first stage)
    {error err : CallError} (returned : b.result c₀ = .error error)
    (hexpired : err.isSessionExpired = true) :
    Course b c₀ ((c.noting e).expel n err) true := by
  have hbeside := Beside.signOut (c.noting e)
  have hsession : ((c.noting e).expel n err).session =
      { c.session.signOut.2 with prompted := true } := by
    rw [← noting_session c e]
    exact signOut_session (c.noting e)
  have hprompts : ((c.noting e).expel n err).signInPrompts =
      c.signInPrompts + if c.session.prompted then 0 else 1 := by
    rw [← noting_session c e, ← noting_signInPrompts c e]
    exact signOut_signInPrompts (c.noting e)
  have hdepartures : ((c.noting e).expel n err).departures = c.departures :=
    hbeside.departures.trans (departures_noting c e)
  have hphase : Phase b c₀ ((c.noting e).expel n err) true := by
    cases h.phase with
    | renewed returned' => cases returned.symm.trans returned'
    | lost returned' state flight departures store prompts =>
      refine .lost returned' ?_ ?_ ?_ (fun s hs => ?_) (Or.inr ⟨by rw [hsession], ?_⟩)
      · rw [hsession]
        exact Session.signOut_state _
      · exact hbeside.flight.trans (by rw [noting_desk]; exact flight)
      · rw [hdepartures]
        exact departures
      · -- there is no record to be removed any more
        rw [hsession]
        show (c.session.signOut.2).store.text? = none
        rw [Session.signOut_store]
        exact Store.text?_attempt_clear (store s hs)
      · -- the first one claims the prompt
        rcases prompts with ⟨hclaimed, heq⟩ | ⟨hclaimed, heq⟩
        · rw [hprompts, hclaimed, heq]
          rfl
        · rw [hprompts, hclaimed, heq]
          rfl
  refine h.ends turn.task turn.kind (expel_ended (c.noting e) n err)
    ((signOut_failureNotices _).trans (noting_failureNotices c e)) hphase
    (fun _ _ => by rw [hsession]) ?_
  rw [turn.sent, turn.outcomes]
  exact .failed returned turn.authorized hexpired

/-! ### A task asks -/

/-- A task waits for a flight, and nobody else is concerned. -/
theorem Course.waits (h : Course b c₀ c landed) (turn : Turn b c e n r first stage)
    {superseded : Bool} (desk : SingleFlight) {flight : Flight} (steps : List Step)
    (hflight : desk.flight = some flight) (hmem : n ∈ flight.waiters)
    (hprompted : desk.session.prompted = c.session.prompted)
    (hsteps : ∀ m outcome, .wake m outcome ∉ steps) {c' : Client}
    (hc' : c' = (({ c.noting e with desk } : Client).setStage n
      (.waiting .refused b.used.generation superseded)).enable steps)
    (hphase : Phase b c₀ c' landed) (hqueued : c'.Queued) : Course b c₀ c' landed := by
  subst hc'
  obtain ⟨htask', hsent, houtcomes⟩ :=
    file_waits c e turn.task (.waiting .refused b.used.generation superseded) desk
  refine h.of_one (e := e) (n := n) (noting_options c e) (noting_failureNotices c e) hphase
    (fun m hm => ?_) ⟨htask', turn.kind, ?_⟩ ?_ (fun m outcome hwake => ?_)
    fun t outcome ht hstage => ?_
  · rw [file_enable, file_setStage, if_neg hm]
    rfl
  · rw [file_enable, hsent, houtcomes, turn.sent, turn.outcomes]
    exact .waiting turn.authorized
  · rintro error herror (hclaimed | hended)
    · exact hprompted.trans hclaimed
    · exact absurd (houtcomes.trans turn.outcomes) hended
  · rcases List.mem_append.mp hwake with hold | hnew
    · exact noting_ready_subset c e _ hold
    · exact absurd hnew (hsteps m outcome)
  · -- it stands in line for the flight, and so nothing wakes it yet
    refine hqueued.not_woken ht (by rw [hstage]; simp) ?_ outcome
    show n ∈ (desk.flight.map (·.waiters)).getD []
    rw [hflight]
    exact hmem

/-- A task joins the flight under way. -/
theorem Course.joins (h : Course b c₀ c landed) (turn : Turn b c e n r first stage)
    {flight : Flight} (under : c.desk.flight = some flight) {c' : Client}
    (hc' : c' = ({ c.noting e with
      desk := { c.desk with flight := some { flight with waiters := flight.waiters ++ [n] } } } :
        Client).setStage n
          (.waiting .refused b.used.generation (flight.generation.isOlder b.used.generation)))
    (hqueued : c'.Queued) : Course b c₀ c' landed := by
  have hboarding : c'.boarding = c.boarding := by
    rw [hc', ← boarding_noting turn.quiet]
    rfl
  have hdepartures : c'.departures = c.departures := by
    rw [hc', ← departures_noting c e]
    rfl
  have hprompts : c'.signInPrompts = c.signInPrompts := by
    rw [hc']
    exact noting_signInPrompts c e
  have hsession : c'.session = c.session := by
    rw [hc']
    rfl
  have hphase : Phase b c₀ c' landed := by
    cases h.phase with
    | before untouched state boarding departures =>
      exact .before (untouched.congr hsession hprompts) (by rw [hsession]; exact state)
        (hboarding.trans boarding) (hdepartures.trans departures)
    | @during waiters untouched state flight' launching departed =>
      cases under.symm.trans flight'
      have hflight : c'.desk.flight = some ⟨b.used.generation, waiters ++ [n]⟩ := by
        rw [hc']
        rfl
      refine .during (untouched.congr hsession hprompts) (by rw [hsession]; exact state) hflight
        (fun g current hmem => launching g current ?_)
        (by rw [hboarding, hdepartures]; exact departed)
      rw [hc'] at hmem
      exact noting_ready_subset c e _ hmem
    | renewed returned state current flight' => cases under.symm.trans flight'
    | lost returned state flight' => cases under.symm.trans flight'
  exact h.waits turn ⟨c.session, some { flight with waiters := flight.waiters ++ [n] }⟩ [] rfl
    (List.mem_append_right _ List.mem_cons_self) rfl (fun _ _ hmem => (by cases hmem))
    (hc'.trans (enable_nil _).symm) hphase hqueued

/-- A task is the first to ask, and launches the flight. -/
theorem Course.launches (h : Course b c₀ c landed) (turn : Turn b c e n r first stage)
    {current : Credentials} (idle : c.desk.flight = none)
    (state : c.session.state = .loggedIn b.used.generation)
    (now : c.session.current = some ⟨b.used.generation, current⟩) {c' : Client}
    (hc' : c' = (({ c.noting e with
      desk := ⟨c.session.publish (.refreshing b.used.generation), some ⟨b.used.generation, [n]⟩⟩ } :
        Client).setStage n (.waiting .refused b.used.generation false)).enable
          [.launch b.used.generation current])
    (hqueued : c'.Queued) : Course b c₀ c' landed := by
  have hphase : Phase b c₀ c' landed := by
    cases h.phase with
    | before untouched state' boarding departures =>
      have hcurrent : current = b.used.credentials :=
        congrArg Snapshot.credentials (Option.some.inj (now.symm.trans untouched.current))
      have hnone : (c.noting e).boarding = [] := (boarding_noting turn.quiet).trans boarding
      subst hc'
      refine .during ⟨untouched.current, untouched.store, untouched.prompted, ?_⟩ rfl rfl
        (fun g current' hmem => ?_) (Or.inl ⟨?_, ?_⟩)
      · exact (noting_signInPrompts c e).trans untouched.prompts
      · rcases List.mem_append.mp hmem with hold | hnew
        · -- no flight was about to begin
          have hboards : g ∈ (c.noting e).boarding := List.mem_filterMap.mpr ⟨_, hold, rfl⟩
          rw [hnone] at hboards
          cases hboards
        · cases List.mem_singleton.mp hnew
          exact hcurrent
      · simp [Client.boarding, enable, setStage, Step.launched?]
      · rw [← departures, ← departures_noting c e]
        rfl
    | during untouched state' flight => cases idle.symm.trans flight
    | renewed returned state' =>
      have hnumber : b.used.generation.number = b.used.generation.number + 1 :=
        congrArg Generation.number (Session.State.loggedIn.inj (state.symm.trans state'))
      omega
    | lost returned state' => cases state.symm.trans state'
  exact h.waits turn
    ⟨c.session.publish (.refreshing b.used.generation), some ⟨b.used.generation, [n]⟩⟩
    [.launch b.used.generation current] rfl (List.mem_singleton_self n) rfl
    (fun _ _ hmem => (by simp at hmem)) hc' hphase hqueued

/-- A task asks for newer credentials.  What it gets depends on how far the session has
come. -/
theorem Course.asks (h : Course b c₀ c landed) (hfit : b.Fit c₀) (hc : c.Ledger)
    (turn : Turn b c e n r first stage)
    (hqueued : ((c.noting e).ask n r .refused b.used.generation).Queued) :
    Course b c₀ ((c.noting e).ask n r .refused b.used.generation) landed := by
  obtain ⟨reply, f, hask, hasked⟩ := SingleFlight.ask_spec hc.desk n b.used.generation
  have hsame : ({ c.noting e with desk := c.desk } : Client) = c.noting e := by cases e <;> rfl
  unfold ask at hqueued ⊢
  rw [noting_desk, hask] at hqueued ⊢
  cases hasked with
  | signedOut state =>
    -- it comes after the flight has failed
    simp only [hsame]
    cases h.phase with
    | lost returned => exact h.expels turn returned rfl
    | before untouched state' => cases state.symm.trans state'
    | during untouched state' => cases state.symm.trans state'
    | renewed returned state' => cases state.symm.trans state'
  | advanced idle state current ne =>
    -- it comes after the flight has brought new credentials
    simp only [hsame]
    cases h.phase with
    | renewed returned state' current' =>
      cases current.symm.trans current'
      exact h.resends turn returned (hfit.fresh _ returned)
    | before untouched state' =>
      cases state.symm.trans state'
      exact absurd rfl ne
    | during untouched state' => cases state.symm.trans state'
    | lost returned state' => cases state.symm.trans state'
  | joined state under => exact h.joins turn under rfl hqueued
  | launched idle state current => exact h.launches turn idle state current rfl hqueued

end acts

/-! ### A flight lands -/

section landings

variable {b : Batch} {c₀ c : Client} {e : Event}

/-- A flight is down, and those who have waited for it are woken. -/
theorem Course.of_landing (h : Course b c₀ c false) {landed : Bool} {s : Session}
    {waiters : List Nat} {outcome : SingleFlight.Outcome} {c' : Client}
    (hc' : c' = ({ c.noting e with desk := ⟨s, none⟩ } : Client).enable
      (waiters.map (.wake · outcome)))
    (hphase : Phase b c₀ c' landed)
    (hwakes : ∀ n ∈ b.members, n ∈ waiters → ∀ t, c.tasks[n]? = some t →
      t.stage = .waiting .refused b.used.generation false →
        landed = true ∧ outcome = b.outcome (b.result c₀)) : Course b c₀ c' landed := by
  -- a landing is no business of any task yet; that is for the steps that it enables
  have hfile : ∀ n, c'.file n = (c.file n).hear e.reply? := fun n => by
    rw [hc', file_enable, file_withDesk, file_noting]
  refine ⟨by rw [hc']; exact (noting_options c e).trans h.options,
    by rw [hc']; exact (noting_failureNotices c e).trans h.notices, hphase, fun n hn => ?_,
    fun _ _ n hn hended => ?_, fun n hn t outcome' ht hstage hmem => ?_⟩
  · rw [hfile]
    cases landed with
    | false => exact (h.legs n hn).hear _
    | true => exact (h.legs n hn).land.hear _
  · obtain ⟨-, -, leg⟩ := h.legs n hn
    exact absurd ((congrArg File.outcomes (hfile n)).trans leg.outcomes_nil) hended
  · have ht' : c.tasks[n]? = some t := (congrArg File.task (hfile n)).symm.trans ht
    rw [hc'] at hmem
    rcases List.mem_append.mp hmem with hold | hnew
    · -- nobody was woken before
      have hbefore := (h.wakes n hn t outcome' ht' hstage (noting_ready_subset c e _ hold)).1
      cases hbefore
    · obtain ⟨m, hm, heq⟩ := List.mem_map.mp hnew
      cases heq
      exact hwakes n hn hm t ht' hstage

/-- The flight lands that replaces the credentials of the batch. -/
theorem Course.lands (h : Course b c₀ c false) (hfit : b.Fit c₀) (hc : c.Ledger)
    {waiters : List Nat} (untouched : Untouched b c₀ c)
    (state : c.session.state = .refreshing b.used.generation)
    (under : c.desk.flight = some ⟨b.used.generation, waiters⟩)
    (departures : c.departures = c₀.departures ∨
      c.departures = c₀.departures ++ [b.used.generation])
    (departed : ∀ new, b.result c₀ = .ok new →
      c.departures = c₀.departures ++ [b.used.generation]) :
    Course b c₀ ((c.noting e).settleFlight b.used.generation (b.result c₀)) true := by
  obtain ⟨outcome, s, hlanded, hsettle⟩ := settleFlight_of_flight (c.noting e)
    (by rw [noting_desk]; exact hc.desk) (by rw [noting_desk]; exact under) (b.result c₀)
  rw [noting_session] at hlanded
  have hdepartures : ((c.noting e).settleFlight b.used.generation (b.result c₀)).departures =
      c.departures := by
    rw [departures_settleFlight, departures_noting]
  have hprompts : (({ c.noting e with desk := ⟨s, none⟩ } : Client).enable
      (waiters.map (.wake · outcome))).signInPrompts = c₀.signInPrompts :=
    (noting_signInPrompts c e).trans untouched.prompts
  have hcredentials : c.session.credentials? = some b.used.credentials := by
    rw [Session.credentials?, untouched.current]
    rfl
  cases hlanded with
  | @replaced new _ returned =>
    have hnext : c.session.nextGeneration = b.used.generation.next :=
      hc.desk.coherent.nextGeneration_of_current untouched.current
    have hreplacement : c.session.replacement new =
        new.keepRefreshToken (some b.used.credentials) := by
      rw [Session.replacement, hcredentials]
    refine h.of_landing hsettle (.renewed returned ?_ ?_ ?_ ?_ ?_) fun n hn _ t ht hstage =>
      ⟨rfl, ?_⟩
    · rw [hsettle, ← hnext]
      rfl
    · rw [hsettle, ← hnext, ← hreplacement]
      rfl
    · rw [hsettle]
      rfl
    · rw [hdepartures]
      exact departed new returned
    · rw [hsettle]
      exact hprompts
    · rw [returned, hreplacement]
      rfl
  | @failed error _ returned =>
    refine h.of_landing hsettle (.lost returned ?_ ?_ ?_ (fun store hstore => ?_)
      (Or.inl ⟨?_, ?_⟩)) fun n hn _ t ht hstage => ⟨rfl, ?_⟩
    · rw [hsettle]
      rfl
    · rw [hsettle]
      rfl
    · rw [hdepartures]
      exact departures
    · rw [hsettle]
      show (c.session.store.attempt c.session.store.clear).text? = none
      rw [untouched.store, hstore]
      exact (Store.clear_spec hstore).1
    · rw [hsettle]
      exact untouched.prompted.trans hfit.unclaimed
    · rw [hsettle]
      exact hprompts
    · rw [returned]
      rfl
  | overtaken state' => cases state.symm.trans state'
  | ended state' => cases state.symm.trans state'

/-- A flight of a former session lands.  Those of the batch who have waited for it
will have to ask again. -/
theorem Course.passes (h : Course b c₀ c false) (hc : c.Ledger) (hq : c.Queued) {flight : Flight}
    (under : c.desk.flight = some flight) (untouched : Untouched b c₀ c)
    (state : c.session.state = .loggedIn b.used.generation)
    (boarding : (c.noting e).boarding = []) (departures : c.departures = c₀.departures)
    (result : Except CallError Credentials) :
    Course b c₀ ((c.noting e).settleFlight flight.generation result) false := by
  obtain ⟨outcome, s, hlanded, hsettle⟩ := settleFlight_of_flight (c.noting e)
    (by rw [noting_desk]; exact hc.desk) (by rw [noting_desk]; exact under) result
  rw [noting_session] at hlanded
  cases hlanded with
  | @overtaken g credentials state' newer current =>
    cases state.symm.trans state'
    have hsession : ((c.noting e).settleFlight flight.generation result).session = c.session := by
      rw [hsettle]
      rfl
    have hprompts : ((c.noting e).settleFlight flight.generation result).signInPrompts =
        c.signInPrompts := by
      rw [hsettle]
      exact noting_signInPrompts c e
    refine h.of_landing hsettle (.before (untouched.congr hsession hprompts) ?_ ?_ ?_)
      fun n hn hmem t ht hstage => ?_
    · rw [hsession]
      exact state
    · rw [boarding_settleFlight]
      exact boarding
    · rw [departures_settleFlight, departures_noting]
      exact departures
    · -- whoever has joined it knows that it was superseded
      have holder := (hq.placed n t ht).under flight _ _ _ under hmem hstage
      rw [Generation.isOlder_eq_true.mpr newer] at holder
      cases holder
  | replaced state' => cases state.symm.trans state'
  | failed state' => cases state.symm.trans state'
  | ended state' => cases state.symm.trans state'

end landings

end Client

end SessionKeeper
