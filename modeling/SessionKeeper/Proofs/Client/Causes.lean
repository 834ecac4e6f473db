import SessionKeeper.Proofs.Client.Attempts
import SessionKeeper.Proofs.Client.History

/-! # No flight without a cause

A flight may be launched long after what made somebody want it: the task that launches it may
have waited for another flight to land, and others may have signed in and out meanwhile.  Here
every launch is traced back to its cause, which lies earlier in the same run (`Cause`).

* A task that waits after a refusal has shown credentials of the generation that it wants to
  have replaced, and was answered 401 (`told_after`).
* A task that waits ahead of time has found credentials of this generation about to expire
  (`found_after`).
* A flight is launched by a task that asks, and by nobody else (`asks_of_dispatches`).

So sign-ins, refreshes of an application, requests that show no credentials, and replies
other than 401 launch nothing.

No more of Mathlib than the imports bring. -/

namespace SessionKeeper

namespace Client

/-! ### Flights and their causes -/

/-- In an event a flight of generation `g` is launched: it is about to begin from now on. -/
def Dispatches (g : Generation) (c : Client) (e : Event) : Prop :=
  c.boarding.count g < (c.step e).boarding.count g

/-- In an event task `n` begins, whose request `r` is regular, and finds that the credentials
in use, which are of generation `g`, are about to expire. -/
def FindsDue (n : Nat) (r : Http.Request) (g : Generation) (c : Client) (e : Event) : Prop :=
  ∃ used, used.generation = g ∧ Checks n r used c e ∧ c.isDue used.credentials = true

/-- Why in a run task `n`, whose request is `r`, wants credentials of generation `g` to be
replaced. -/
inductive Cause (c₀ : Client) (es : List Event) (n : Nat) (r : Http.Request) (g : Generation) :
    Occasion → Prop where
  /-- It has found them about to expire, and the client has a threshold for that. -/
  | due (threshold : 0 < c₀.options.refreshThreshold) (found : During c₀ es (FindsDue n r g)) :
      Cause c₀ es n r g .ahead
  /-- It has shown them, and was answered 401. -/
  | refused {used : Snapshot} {first : Http.Request} (kind : r.kind = .regular)
      (generation : used.generation = g) (shown : HasShown c₀ es n r used first)
      (denied : During c₀ es (Refuses n first)) : Cause c₀ es n r g .refused

variable {c₀ c c' : Client} {es : List Event} {e : Event} {n : Nat} {t : Task} {r : Http.Request}
  {g : Generation} {occasion : Occasion}

/-! ### From a question to its cause -/

/-- Without a threshold nothing is ever due. -/
theorem threshold_of_isDue {x : Credentials} (hdue : c.isDue x = true) :
    0 < c.options.refreshThreshold := by
  by_cases hzero : c.options.refreshThreshold = 0
  · simp [isDue, Options.window?, hzero] at hdue
  · omega

theorem During.threshold (hc : c₀.Ledger) (h : During c₀ es (FindsDue n r g)) :
    0 < c₀.options.refreshThreshold := by
  obtain ⟨past, e, later, -, used, -, -, hdue⟩ := h
  have hthreshold := threshold_of_isDue hdue
  rwa [options_after hc past] at hthreshold

/-- **Step.**  Whoever asks ahead of time has found credentials about to expire, at the latest
now. -/
theorem Asks.found (h : Asks (c₀.after es) n e .ahead g) (htask : (c₀.after es).tasks[n]? = some t)
    (hr : t.request = .ok r)
    (hbefore : ∀ superseded, t.stage = .waiting .ahead g superseded →
      During c₀ es (FindsDue n r g)) :
    During c₀ (es ++ [e]) (FindsDue n r g) := by
  cases h with
  | @ahead place t' r' snapshot step task request stage kind current due =>
    cases htask.symm.trans task
    cases hr.symm.trans request
    obtain ⟨purpose, request', stage'⟩ := t
    cases request
    cases stage
    have hstarts : Starts n r (c₀.after es) (.go place) := ⟨⟨place, rfl, step⟩, purpose, task⟩
    exact .last ⟨snapshot, rfl, ⟨hstarts, kind, current⟩, due⟩
  | again step task stage =>
    -- it has found them when it asked for the first time
    cases htask.symm.trans task
    exact (hbefore true stage).concat _

/-- **Run.**  Whoever waits ahead of time has found credentials about to expire. -/
theorem found_after (hc : c₀.Ledger) (hnew : c₀.tasks = []) (es : List Event) (n : Nat) (t : Task)
    (r : Http.Request) (g : Generation) (superseded : Bool)
    (ht : (c₀.after es).tasks[n]? = some t) (hr : t.request = .ok r)
    (hstage : t.stage = .waiting .ahead g superseded) : During c₀ es (FindsDue n r g) := by
  -- from the end: the last event may be the one in which the task has begun to wait
  induction es using List.reverseRecOn generalizing t superseded with
  | nil =>
    rw [show (c₀.after []).tasks = [] from hnew] at ht
    cases ht
  | append_singleton es e ih =>
    have hes := hc.after es
    rw [after_concat] at ht
    have hcame := came_spec hes e ht
    cases hbefore : (c₀.after es).tasks[n]? with
    | none =>
      rw [hbefore, hstage] at hcame
      cases hcame
    | some t₀ =>
      -- the task was there before, with the same request
      obtain ⟨stage, hlater⟩ := task_step hes e hbefore
      have hsame : t = { t₀ with stage } := Option.some.inj (ht.symm.trans hlater)
      have hr₀ : t₀.request = .ok r := by rw [← hr, hsame]
      have hearlier : ∀ superseded, t₀.stage = .waiting .ahead g superseded →
          During c₀ es (FindsDue n r g) := fun superseded => ih t₀ superseded hbefore hr₀
      rw [hbefore, hstage] at hcame
      generalize hwait : Stage.waiting .ahead g superseded = stage' at hcame
      cases hcame with
      | stays => exact (hearlier superseded hwait.symm).concat e
      | waits asks =>
        cases hwait
        exact asks.found hbefore hr₀ hearlier
      | sends due => cases hwait
      | sendsAgain => cases hwait
      | ends => cases hwait

/-- **Whoever asks has a cause.** -/
theorem Asks.cause (options : Options) (store : Store) (now : Time.Instant)
    (h : Asks ((Client.new options store now).after es) n e occasion g) :
    ∃ t r, ((Client.new options store now).after es).tasks[n]? = some t ∧ t.request = .ok r ∧
      r.kind = .regular ∧ Cause (Client.new options store now) (es ++ [e]) n r g occasion := by
  have hc₀ := Ledger.new options store now
  have hc := hc₀.after es
  obtain ⟨t, r, htask, hr, -⟩ := h.step_eq hc
  have hkept := hc.kept n t htask
  have hkind : r.kind = .regular :=
    (h.showed htask hr (hkept.showed r hr) false).kind_of_waiting
  refine ⟨t, r, htask, hr, hkind, ?_⟩
  cases occasion with
  | ahead =>
    have hfound := h.found htask hr fun superseded hstage =>
      found_after hc₀ rfl es n t r g superseded htask hr hstage
    exact .due (hfound.threshold hc₀) hfound
  | refused =>
    have htold := told_after options store now es n t htask
    obtain ⟨used, first, hg, -, hshown, hdenied⟩ := h.told hc htask hr rfl htold
    exact .refused hkind hg hshown hdenied

/-! ### From a launch to its question -/

theorem count_boarding_noting (c : Client) (e : Event) (g : Generation) :
    (c.noting e).boarding.count g ≤ c.boarding.count g := by
  cases e with
  | go place => exact ((List.eraseIdx_sublist _ _).filterMap _).count_le g
  | _ => exact Nat.le_refl _

/-- An event after which no more flights are about to begin than have been noted has launched
none. -/
theorem not_dispatches_of_boarding (hstep : c.step e = c')
    (h : c'.boarding = (c.noting e).boarding) : ¬ Dispatches g c e := by
  intro hmore
  have hnoting := count_boarding_noting c e g
  rw [Dispatches, hstep, h] at hmore
  omega

/-- **Step.**  A flight is launched by a task that asks, and only if there is none. -/
theorem asks_of_dispatches (hc : c.Ledger) (h : Dispatches g c e) :
    c.desk.flight = none ∧ ∃ n occasion, Asks c n e occasion g := by
  have hhappened := hc.happened e
  generalize hstep : c.step e = c' at hhappened
  cases hhappened with
  | idle beside =>
    rw [Dispatches, hstep, boarding, boarding, beside.ready] at h
    omega
  | ignored quiet noReply nobody => exact absurd h (not_dispatches_of_boarding hstep rfl)
  | spawned purpose request =>
    have hsame : (c.spawn purpose request).boarding = c.boarding := by
      simp [boarding, spawn, enable, Step.launched?]
    rw [Dispatches, hstep, hsame] at h
    omega
  | aborted n =>
    have hsame : (c.abort n).boarding = c.boarding := rfl
    rw [Dispatches, hstep, hsame] at h
    omega
  | departs event step request => exact absurd h (not_dispatches_of_boarding hstep rfl)
  | lands calling =>
    exact absurd h (not_dispatches_of_boarding hstep (boarding_settleFlight _ _ _))
  | @acted n t _ task concerns quiet acted =>
    cases acted with
    | sendsFirst request due shown authorized =>
      exact absurd h (not_dispatches_of_boarding hstep rfl)
    | sendsAgain request hears authorized =>
      exact absurd h (not_dispatches_of_boarding hstep rfl)
    | joins asks under => exact absurd h (not_dispatches_of_boarding hstep rfl)
    | ends ended =>
      obtain ⟨hbeside⟩ := ended
      have hsame : ∀ o, (finish _ n o).boarding = (c.noting e).boarding :=
        fun o => congrArg (List.filterMap Step.launched?) hbeside.ready
      exact absurd h (not_dispatches_of_boarding hstep (hsame _))
    | @launches occasion g' current asks idle state now =>
      -- the only flight that is launched is the one that was asked for
      have hg : g' = g := by
        by_contra hne
        have hmore : (c.step e).boarding = (c.noting e).boarding ++ [g'] := by
          rw [hstep]
          simp [boarding, enable, setStage, Step.launched?]
        have hnoting := count_boarding_noting c e g
        rw [Dispatches, hmore, List.count_append, List.count_singleton] at h
        simp [hne] at h
        omega
      subst hg
      exact ⟨idle, n, occasion, asks⟩

/-- What a task does is no request of a flight. -/
theorem Acted.departures (h : Acted c e n t c') : c'.departures = c.departures := by
  have hnoted := departures_noting c e
  cases h with
  | sendsFirst request due shown authorized =>
    rw [departures_transmit]
    exact (List.append_nil _).trans hnoted
  | sendsAgain request hears authorized =>
    rw [departures_transmit]
    exact (List.append_nil _).trans hnoted
  | joins asks under => exact hnoted
  | launches asks idle state now => exact hnoted
  | ends ended =>
    obtain ⟨hbeside⟩ := ended
    exact hbeside.departures.trans hnoted

/-- **Step.**  A flight that sends its request was about to begin. -/
theorem boarding_of_departs (hc : c.Ledger) (hg : g ∈ (c.step e).departures) :
    g ∈ c.departures ∨ g ∈ c.boarding := by
  have hhappened := hc.happened e
  generalize c.step e = c' at hhappened hg
  cases hhappened with
  | idle beside =>
    rw [beside.departures] at hg
    exact Or.inl hg
  | ignored quiet noReply nobody =>
    rw [departures_noting] at hg
    exact Or.inl hg
  | spawned purpose request => exact Or.inl hg
  | aborted n => exact Or.inl hg
  | acted task concerns quiet acted =>
    rw [acted.departures] at hg
    exact Or.inl hg
  | @departs place g' current r event step request =>
    rw [departures_transmit, departures_noting] at hg
    rcases List.mem_append.mp hg with hold | hnew
    · exact Or.inl hold
    · cases List.mem_singleton.mp hnew
      exact Or.inr (List.mem_filterMap.mpr ⟨_, List.mem_of_getElem? step, rfl⟩)
  | lands calling =>
    rw [departures_settleFlight, departures_noting] at hg
    exact Or.inl hg

/-- **Run.**  A flight that is about to begin, or has sent its request, was launched. -/
theorem dispatched_after (hc : c₀.Ledger) (hboarding : c₀.boarding = [])
    (hdepartures : c₀.departures = []) (es : List Event) (g : Generation)
    (hg : g ∈ (c₀.after es).boarding ∨ g ∈ (c₀.after es).departures) :
    During c₀ es (Dispatches g) := by
  induction es using List.reverseRecOn with
  | nil =>
    rcases hg with hready | hsent
    · rw [show (c₀.after []).boarding = [] from hboarding] at hready
      cases hready
    · rw [show (c₀.after []).departures = [] from hdepartures] at hsent
      cases hsent
  | append_singleton es e ih =>
    rw [after_concat] at hg
    by_cases hbefore : g ∈ (c₀.after es).boarding
    · exact (ih (Or.inl hbefore)).concat e
    · rcases hg with hready | hsent
      · -- it was launched just now
        have hmany := List.count_pos_iff.mpr hready
        have hzero := List.count_eq_zero.mpr hbefore
        have hdispatches : Dispatches g (c₀.after es) e := by
          rw [Dispatches]
          omega
        exact .last hdispatches
      · rcases boarding_of_departs (hc.after es) hsent with hold | hready
        · exact (ih (Or.inr hold)).concat e
        · exact absurd hready hbefore

/-! ### The main theorem -/

/-- **No flight without a cause.**  Take any run of a client and any event after it that
launches a flight of generation `g`.

* The flight is launched by a task with a regular request, which asks in this event.  In the
  run, the event included, this task has shown credentials of generation `g` and was answered
  401; or the client has a threshold, and the task has found credentials of generation `g`
  about to expire within it.
* If the event is the arrival of a reply, then this is a 401, to a regular request that was
  sent with credentials of generation `g`.
* Every flight that is about to begin or has sent its request was launched by an event of the
  run. -/
theorem dispatched_with_cause (options : Options) (store : Store) (now : Time.Instant)
    (es : List Event) :
    let c₀ := Client.new options store now
    let c := c₀.after es
    (∀ e g, Dispatches g c e → ∃ n t r occasion, Asks c n e occasion g ∧
      c.tasks[n]? = some t ∧ t.request = .ok r ∧ r.kind = .regular ∧
      Cause c₀ (es ++ [e]) n r g occasion) ∧
    (∀ id reply g, Dispatches g c (.reply id reply) → ∃ response n t r used,
      reply = .response response ∧ response.status = 401 ∧
      c.awaiting.lookup id = some (.task n) ∧ c.tasks[n]? = some t ∧ t.request = .ok r ∧
      r.kind = .regular ∧ t.stage = .sent (some used) ∧ used.generation = g) ∧
    ∀ g, g ∈ c.boarding ∨ g ∈ c.departures → During c₀ es (Dispatches g) := by
  intro c₀ c
  have hc₀ : c₀.Ledger := .new options store now
  have hc : c.Ledger := hc₀.after es
  refine ⟨fun e g hdispatches => ?_, fun id reply g hdispatches => ?_,
    dispatched_after hc₀ rfl rfl es⟩
  · obtain ⟨-, n, occasion, hasks⟩ := asks_of_dispatches hc hdispatches
    obtain ⟨t, r, htask, hr, hkind, hcause⟩ := Asks.cause options store now hasks
    exact ⟨n, t, r, occasion, hasks, htask, hr, hkind, hcause⟩
  · obtain ⟨-, n, occasion, hasks⟩ := asks_of_dispatches hc hdispatches
    cases hasks with
    | @refused _ t r used response awaited task request stage kind status =>
      exact ⟨response, n, t, r, used, rfl, status, awaited, task, request, kind, stage, rfl⟩

end Client

end SessionKeeper
