import SessionKeeper.Proofs.Client.Prompts

/-! # Calls that end because the session is over

A call that fails with the end of the session is told the truth: nobody is signed in when
it ends, there are no credentials, and the application has been asked for the sign-in
since somebody was signed in (`Gone`).  It does not matter whether the call has ended the
session itself, or found it ended by others.

There is one exception (`Outrun`).  A request that was sent while nobody was signed in may
be refused when somebody is.  The session that has begun since is then left as it is, and
the failure says that a retry may help.

Two facts about runs carry this.  A time without a session has a beginning
(`exists_absence`), and in it the prompt is claimed by the first who ends the session or
asks for the sign-in.  A regular request is sent without credentials only while nobody is
signed in (`bare_after`).

No more of Mathlib than the imports bring. -/

namespace SessionKeeper

open SingleFlight (Asked)

namespace Client

/-! ### What a call is told -/

/-- In a run from `c₀` that goes through `past` and then through `period`, `period` is a
time without a session from its beginning on. -/
structure Absence (c₀ : Client) (past period : List Event) : Prop where
  /-- The client has just been started, or somebody is signed in. -/
  begins : past = [] ∨ (c₀.after past).session.isLoggedIn = true
  out : Outside (c₀.after past) period

/-- After a run nobody is signed in, and the application has been asked for the sign-in
once in the time without a session that the run ends with. -/
structure Gone (c₀ : Client) (es : List Event) : Prop where
  state : (c₀.after es).session.state = .loggedOut
  credentials : (c₀.after es).session.credentials? = none
  asked : ∃ past period, es = past ++ period ∧ Absence c₀ past period ∧
    (c₀.after es).signInPrompts = (c₀.after past).signInPrompts + 1

/-- Task `n` sends its request `r` as it was handed over, while nobody is signed in. -/
structure SendsBare (n : Nat) (r : Http.Request) (c : Client) (e : Event) : Prop where
  state : c.session.state = .loggedOut
  unsent : c.sentBy (.task n) = []
  sent : (c.step e).sentBy (.task n) = [r]
  session : (c.step e).session = c.session

/-- The event after a run ends task `n`, and the failure is no news about the session:
somebody has signed in since the request was sent, and stays signed in. -/
structure Outrun (c₀ : Client) (es : List Event) (e : Event) (n : Nat) (error : CallError) :
    Prop where
  /-- A regular request that was sent without credentials is refused, and somebody has
  signed in since. -/
  refused : ∃ t r, Denied (c₀.after es) e n t r ∧ t.stage = .sent none ∧ r.kind = .regular ∧
    ∃ past sending later, es = past ++ sending :: later ∧
      SendsBare n r (c₀.after past) sending ∧ During ((c₀.after past).step sending) later SignsIn
  retryable : error.isRetryable = true
  signedIn : (c₀.after es).session.isLoggedIn = true
  session : ((c₀.after es).step e).session = (c₀.after es).session
  signInPrompts : ((c₀.after es).step e).signInPrompts = (c₀.after es).signInPrompts

/-! ### Times without a session -/

theorem Outside.concat {c : Client} {es : List Event} {e : Event} (h : Outside c es)
    (hout : ((c.after es).step e).session.isLoggedIn = false) : Outside c (es ++ [e]) := by
  induction h with
  | nil c => exact .cons hout (.nil _)
  | cons out rest ih => exact .cons out (ih hout)

/-- **Every time without a session has a beginning.** -/
theorem exists_absence {c₀ : Client} (es : List Event) (e : Event)
    (hout : ((c₀.after es).step e).session.isLoggedIn = false) :
    ∃ past period, es = past ++ period ∧ Absence c₀ past (period ++ [e]) := by
  induction es using List.reverseRecOn generalizing e with
  | nil =>
    have hone : Outside c₀ [e] := .cons hout (.nil _)
    exact ⟨[], [], rfl, Or.inl rfl, hone⟩
  | append_singleton es e₁ ih =>
    by_cases hin : (c₀.after (es ++ [e₁])).session.isLoggedIn = true
    · -- it begins just here
      have hone : Outside (c₀.after (es ++ [e₁])) [e] := .cons hout (.nil _)
      exact ⟨es ++ [e₁], [], (List.append_nil _).symm, Or.inr hin, hone⟩
    · -- it has begun before
      rw [Bool.not_eq_true, after_concat] at hin
      obtain ⟨past, period, rfl, hbegins, houtside⟩ := ih e₁ hin
      refine ⟨past, period ++ [e₁], by rw [List.append_assoc], hbegins, houtside.concat ?_⟩
      rw [List.append_assoc] at hout
      rwa [after, List.foldl_append] at hout

/-- When a time without a session begins, nobody has claimed the prompt. -/
theorem Absence.unclaimed {options : Options} {store : Store} {now : Time.Instant}
    {past period : List Event} (h : Absence (Client.new options store now) past period) :
    ((Client.new options store now).after past).session.prompted = false := by
  rcases h.begins with rfl | hin
  · show (Session.restore store).prompted = false
    unfold Session.restore
    split <;> rfl
  · have hsound := sound_new options store now
    have hunclaimed := unclaimed_after hsound (.restore store) past
    exact hunclaimed hin

/-- **In a time without a session the application is asked once**, if it ends with an event
that makes somebody ask. -/
theorem Absence.asked {options : Options} {store : Store} {now : Time.Instant}
    {past period : List Event} {e : Event}
    (h : Absence (Client.new options store now) past (period ++ [e]))
    (hprompts : Prompts ((Client.new options store now).after (past ++ period)) e) :
    ((Client.new options store now).after (past ++ (period ++ [e]))).signInPrompts =
      ((Client.new options store now).after past).signInPrompts + 1 := by
  have hc : ((Client.new options store now).after past).Ledger :=
    (Ledger.new options store now).after past
  have hsplit : ∀ later, (Client.new options store now).after (past ++ later) =
      ((Client.new options store now).after past).after later := fun later => List.foldl_append
  rw [hsplit] at hprompts ⊢
  have hduring := During.last hprompts
  rcases h.out.claimed_once hc h.unclaimed with ⟨hone, -⟩ | ⟨-, hnone⟩
  · exact hone
  · exact absurd hduring hnone

/-! ### Requests without credentials -/

section bare

variable {c : Client} {n : Nat} {t : Task} {r : Http.Request} {snapshot : Snapshot}

theorem task_setStage (htask : c.tasks[n]? = some t) (stage : Stage) :
    (c.setStage n stage).tasks[n]? = some { t with stage } := by
  simp only [setStage, List.getElem?_modify_eq, htask]
  rfl

/-- A task that sends its request has come to its new stage, or has ended. -/
theorem send_stage (htask : c.tasks[n]? = some t) (used : Option Credentials) (stage : Stage) :
    ∃ stage', (c.send n r used stage).tasks[n]? = some { t with stage := stage' } ∧
      (stage' = stage ∨ stage' = .done) := by
  unfold send
  cases authorize r used with
  | ok signed => exact ⟨stage, task_setStage htask stage, Or.inl rfl⟩
  | error error =>
    have hended : (c.surface n error).tasks[n]? = some { t with stage := .done } := by
      unfold surface
      split
      · exact task_setStage htask .done
      · exact task_setStage htask .done
    exact ⟨.done, hended, Or.inr rfl⟩

/-- While there are credentials, whoever has asked ahead of time does not send without. -/
theorem proceed_shows (htask : c.tasks[n]? = some t) (hcurrent : c.session.current = some snapshot)
    (outcome : SingleFlight.Outcome) :
    ∃ stage, (c.proceed n r .ahead outcome).tasks[n]? = some { t with stage } ∧
      stage ≠ .sent none := by
  unfold proceed
  cases outcome with
  | error refusal =>
    have htask' : c.signOut.tasks[n]? = some t := by
      rw [(Beside.signOut c).tasks, htask]
    exact ⟨.done, task_setStage htask' .done, nofun⟩
  | ok fresh =>
    obtain ⟨stage, hstage, hcases⟩ := send_stage (r := r) htask
      (c.session.current.map (·.credentials)) (.sent c.session.current)
    refine ⟨stage, hstage, ?_⟩
    intro hbare
    rcases hcases with rfl | rfl
    · rw [hcurrent] at hbare
      cases hbare
    · cases hbare

theorem ask_shows (hs : c.desk.Sound) (htask : c.tasks[n]? = some t)
    (hcurrent : c.session.current = some snapshot) (g : Generation) :
    ∃ stage, (c.ask n r .ahead g).tasks[n]? = some { t with stage } ∧ stage ≠ .sent none := by
  unfold ask
  obtain ⟨reply, f, hask, hasked⟩ := SingleFlight.ask_spec hs n g
  rw [hask]
  cases hasked with
  | signedOut state => exact proceed_shows htask hcurrent _
  | advanced idle state current ne => exact proceed_shows htask hcurrent _
  | joined state under => exact ⟨_, task_setStage htask _, nofun⟩
  | launched idle state current => exact ⟨_, task_setStage htask _, nofun⟩

/-- While there are credentials, a regular request is not sent without. -/
theorem begin_shows (hs : c.desk.Sound) (htask : c.tasks[n]? = some t) (hkind : r.kind = .regular)
    (hcurrent : c.session.current = some snapshot) :
    ∃ stage, (c.begin n r).tasks[n]? = some { t with stage } ∧ stage ≠ .sent none := by
  rw [begin_of_signedIn hkind hcurrent]
  by_cases hdue : c.isDue snapshot.credentials = true
  · rw [if_pos hdue]
    exact ask_shows hs htask hcurrent _
  · rw [if_neg hdue]
    obtain ⟨stage, hstage, hcases⟩ := send_stage (r := r) htask
      (some snapshot.credentials) (.sent (some snapshot))
    refine ⟨stage, hstage, ?_⟩
    intro hbare
    rcases hcases with rfl | rfl
    · cases hbare
    · cases hbare

/-- **Step.**  A regular request is sent without credentials only if there are none. -/
theorem current_of_bare {e : Event} (hs : c.desk.Sound) (htask : c.tasks[n]? = some t)
    (hr : t.request = .ok r) (hkind : r.kind = .regular) (hconcerns : Concerns c n t e)
    (hdue : t.stage = .starting ∨ ∃ g superseded, t.stage = .waiting .ahead g superseded)
    (hsent : (c.step e).tasks[n]? = some { t with stage := .sent none }) :
    c.session.current = none := by
  by_contra hsome
  obtain ⟨snapshot, hcurrent⟩ := Option.ne_none_iff_exists'.mp hsome
  -- in each case the task comes to a stage, but not to this one
  suffices hother : ∃ stage, (c.step e).tasks[n]? = some { t with stage } ∧ stage ≠ .sent none by
    obtain ⟨stage, hstage, hne⟩ := hother
    rw [hstage] at hsent
    exact hne (congrArg Task.stage (Option.some.inj hsent))
  have hs' : (c.noting e).desk.Sound := by rwa [noting_desk]
  have htask' : (c.noting e).tasks[n]? = some t := by rwa [noting_tasks]
  have hcurrent' : (c.noting e).session.current = some snapshot := by rwa [noting_session]
  obtain ⟨purpose, request, stage⟩ := t
  cases hr
  cases hconcerns with
  | start step stage =>
    cases stage
    rw [step_start step htask]
    exact begin_shows hs' htask' hkind hcurrent'
  | @wake place outcome occasion g superseded step stage =>
    cases stage
    have hahead : occasion = .ahead := by
      rcases hdue with heq | ⟨g', superseded', heq⟩
      · cases heq
      · cases heq
        rfl
    subst hahead
    rw [step_wake step htask]
    split
    · exact ask_shows hs' htask' hcurrent' g
    · exact proceed_shows htask' hcurrent' outcome
  | reply awaited awaits =>
    -- whoever waits for a reply has sent something before
    rcases hdue with rfl | ⟨g, superseded, rfl⟩
    · cases awaits
    · cases awaits

/-- **Step.**  A task that comes to have sent a regular request without credentials does so
while nobody is signed in. -/
theorem Acted.sendsBare {c' : Client} {e : Event} {t' : Task} (h : Acted c e n t c')
    (hstep : c.step e = c') (hc : c.Ledger) (htask : c.tasks[n]? = some t)
    (hconcerns : Concerns c n t e) (ht' : c'.tasks[n]? = some t') (hr : t'.request = .ok r)
    (hkind : r.kind = .regular) (hstage : t'.stage = .sent none) : SendsBare n r c e := by
  have hown : (c'.file n).task = some t' := ht'
  cases h with
  | @sendsFirst r₀ signed used request due shown authorized =>
    obtain ⟨hcome, hsent, -⟩ := file_sends c e htask (.sent used) signed
    cases hcome.symm.trans hown
    cases request.symm.trans hr
    cases hstage
    cases authorized
    have hnil : c.sentBy (.task n) = [] := (((hc.kept n t htask).showed r request).of_due due).1
    have hdue := due.imp_left And.left
    rw [← hstep] at ht'
    have hnone := current_of_bare hc.desk htask request hkind hconcerns hdue ht'
    have hcoherent : c.session.Coherent := hc.desk.coherent
    have hout : c.session.isLoggedIn = false := by
      rw [hcoherent.isLoggedIn_eq, hnone, Option.isSome_none]
    rw [hnil] at hsent
    refine ⟨SingleFlight.isLoggedIn_eq_false.mp hout, hnil, ?_, ?_⟩
    · rw [hstep]
      exact hsent
    · rw [hstep]
      exact noting_session c e
  -- whoever does anything else comes to another stage
  | sendsAgain request hears authorized =>
    obtain ⟨hcome, -, -⟩ := file_sends c e htask .resent _
    cases hcome.symm.trans hown
    cases hstage
  | joins asks under =>
    obtain ⟨hcome, -, -⟩ := file_waits c e htask _ _
    cases hcome.symm.trans hown
    cases hstage
  | launches asks idle state current =>
    obtain ⟨hcome, -, -⟩ := file_waits c e htask _ _
    cases hcome.symm.trans hown
    cases hstage
  | ends ended =>
    obtain ⟨hcome, -, -⟩ := Ended.own c e ended htask
    cases hcome.symm.trans hown
    cases hstage

/-- **Run.**  A regular request that was sent without credentials was so while nobody was
signed in. -/
theorem bare_after (options : Options) (store : Store) (now : Time.Instant) (es : List Event)
    (ht : ((Client.new options store now).after es).tasks[n]? = some t) (hr : t.request = .ok r)
    (hkind : r.kind = .regular) (hstage : t.stage = .sent none) :
    ∃ past e later, es = past ++ e :: later ∧
      SendsBare n r ((Client.new options store now).after past) e := by
  induction es using List.reverseRecOn generalizing t with
  | nil => cases ht
  | append_singleton es e ih =>
    have hc := (Ledger.new options store now).after es
    rw [after_concat] at ht
    cases fate_spec hc e n with
    | same file =>
      -- it was sent before
      have htask := (congrArg File.task file).symm.trans ht
      obtain ⟨past, e', later, rfl, hsends⟩ := ih htask hr hstage
      exact ⟨past, e', later ++ [e], by simp, hsends⟩
    | spawned stage vacant file =>
      cases (congrArg File.task file).symm.trans ht
      rw [stage] at hstage
      cases hstage
    | aborted file =>
      obtain ⟨t₀, ht₀, rfl⟩ := Option.map_eq_some_iff.mp ((congrArg File.task file).symm.trans ht)
      cases hstage
    | acted task concerns acted =>
      exact ⟨es, e, [], rfl, acted.sendsBare rfl hc task concerns ht hr hkind hstage⟩

/-- **Step.**  Nobody but a person who signs in is signed in. -/
theorem Affects.signedOut {e : Event} (h : Affects c e (c.step e))
    (hout : c.session.state = .loggedOut) (hunsigned : ¬ SignsIn c e) :
    (c.step e).session.state = .loggedOut := by
  cases h with
  | spares session prompts => rwa [session]
  | refreshes state session prompts =>
    rw [hout] at state
    cases state
  | signsIn token settled session prompts => exact absurd ⟨_, _, settled⟩ hunsigned
  | lands under token landed session flight prompts =>
    rw [session]
    -- only a flight that somebody still waits for can do anything
    cases landed with
    | replaced state returned =>
      rw [hout] at state
      cases state
    | failed state returned => exact Session.ended_state _
    | overtaken state newer current => exact hout
    | ended state => exact hout
  | signsOut cause session prompts =>
    rw [session, signOut_session]
    exact Session.signOut_state _
  | rejects cause session prompts =>
    rw [session, Session.claimPrompt_state]
    exact hout
  | stores event session prompts => rwa [session]

/-- **Run.**  If nobody was signed in and somebody is, somebody has signed in. -/
theorem signsIn_between {es : List Event} (hc : c.Ledger) (hout : c.session.state = .loggedOut)
    (hin : (c.after es).session.isLoggedIn = true) : During c es SignsIn := by
  induction es generalizing c with
  | nil =>
    rw [show (c.after []).session.isLoggedIn = false from SingleFlight.isLoggedIn_eq_false.mpr hout]
      at hin
    cases hin
  | cons e es ih =>
    rw [During.cons_iff]
    by_cases hsigns : SignsIn c e
    · exact Or.inl hsigns
    · have hstep := (affects_spec hc e).signedOut hout hsigns
      exact Or.inr (ih (hc.step e) hstep hin)

end bare

/-! ### The step that ends a call -/

/-- A call that completes is settled, with whatever its response amounts to. -/
theorem complete_settles (c : Client) (n : Nat) (purpose : Purpose) (response : Http.Response) :
    ∃ o, (c.complete n purpose response).settled = c.settled ++ [(n, o)] := by
  cases purpose with
  | exchange => exact ⟨_, rfl⟩
  | signIn =>
    unfold complete
    cases Credentials.issuedBy response c.options.refreshCookieName with
    | error error => exact ⟨.failed error, rfl⟩
    | ok credentials => exact ⟨.signedIn (c.session.signIn credentials).1, rfl⟩

/-- **Step.**  An event ends one call at most. -/
theorem Passed.settles {c c' : Client} {e : Event} (h : Passed c e c') :
    c'.settled = c.settled ∨ ∃ n o, c'.settled = c.settled ++ [(n, o)] := by
  rw [← noting_settled c e]
  cases h with
  | continues continues => exact Or.inl (by rw [continues.settled, noting_settled])
  | lands calling brings => exact Or.inl (settleFlight_settled _ _ _)
  | signsOut event => exact Or.inl (by rw [signOut_settled, noting_settled])
  | stores event => exact Or.inl (noting_settled c e).symm
  | @concludes n t _ task concludes =>
    refine Or.inr ⟨n, ?_⟩
    cases concludes with
    | unbuildable request => exact ⟨_, finish_settled _ _ _⟩
    | unsendable authorized => exact ⟨_, surface_settled _ _ _⟩
    | answered event success => exact complete_settles _ n t.purpose _
    | failed event result other => exact ⟨_, surface_settled _ _ _⟩
    | crashed event => exact ⟨_, finish_settled _ _ _⟩
    | rejected rejected =>
      obtain ⟨o, hreports⟩ := rejectAnonymous_reports (c := c.noting e) (n := n)
      exact ⟨o, hreports.settled⟩
    | dismissed dismissed => exact ⟨_, expel_settled _ _ _⟩

/-- So a call that an event ends is the only one. -/
theorem Passed.settled_of_mem {c c' : Client} {e : Event} (h : Passed c e c')
    {ended : List (Nat × Client.Outcome)} {n : Nat} {o : Client.Outcome}
    (hended : c'.settled = c.settled ++ ended) (hcall : (n, o) ∈ ended) :
    c'.settled = c.settled ++ [(n, o)] := by
  rcases h.settles with hnone | ⟨m, o', hone⟩
  · rw [List.append_right_eq_self.mp (hended.symm.trans hnone)] at hcall
    cases hcall
  · have hlist : ended = [(m, o')] := List.append_cancel_left (hended.symm.trans hone)
    rw [hlist, List.mem_singleton] at hcall
    rw [hone, hcall]

/-- **Step.**  A call that fails with the end of the session is dismissed, or rejected. -/
theorem Passed.expired {c c' : Client} {e : Event} {n : Nat} {error : CallError}
    (h : Passed c e c') (hsettled : c'.settled = c.settled ++ [(n, .failed error)])
    (hexpired : error.isSessionExpired = true) : Dismissed c e n error ∨ Rejected c e n := by
  have htells : c.Tells c' n := ⟨error, hexpired, hsettled⟩
  -- it is told the same as seen from the client that has taken note of the event
  have htells' : (c.noting e).Tells c' n := ⟨error, hexpired, by rw [noting_settled, hsettled]⟩
  cases h with
  | continues continues => exact absurd htells (not_tells_of_same continues.settled)
  | lands calling brings => exact absurd htells' (not_tells_of_same (settleFlight_settled _ _ _))
  | signsOut event => exact absurd htells (not_tells_of_same (signOut_settled c))
  | stores event => exact absurd htells (not_tells_of_same rfl)
  | concludes task concludes =>
    cases concludes with
    | unbuildable request =>
      obtain ⟨-, e', heq, -⟩ := tells_finish htells' (finish_settled _ _ _)
      cases heq
    | unsendable authorized =>
      obtain ⟨cause, rfl⟩ := internal_of_authorize authorized
      exact absurd htells' (not_tells_surface rfl)
    | answered event success => exact absurd htells' not_tells_complete
    | failed event result other =>
      rcases result_error result with hcrash | ⟨error', heq, hother⟩
      · cases hcrash
      · cases heq
        exact absurd htells' (not_tells_surface hother)
    | crashed event =>
      obtain ⟨-, e', heq, -⟩ := tells_finish htells' (finish_settled _ _ _)
      cases heq
    | rejected rejected =>
      obtain ⟨o, hreports⟩ := rejectAnonymous_reports (c := c.noting e) (n := _)
      obtain ⟨rfl, -⟩ := tells_finish htells' hreports.settled
      exact Or.inr rejected
    | dismissed dismissed =>
      rw [expel_settled, noting_settled] at hsettled
      obtain ⟨rfl, heq⟩ := Prod.mk.inj (List.cons.inj (List.append_cancel_left hsettled)).1
      cases heq
      exact Or.inl dismissed

/-- **Step.**  A call that is rejected while somebody is signed in changes nothing. -/
theorem Rejected.outrun {c : Client} {e : Event} {n : Nat} {error : CallError} (hc : c.Ledger)
    (h : Rejected c e n) (hin : c.session.isLoggedIn = true)
    (hsettled : (c.step e).settled = c.settled ++ [(n, .failed error)]) :
    error.isRetryable = true ∧ (c.step e).session = c.session ∧
      (c.step e).signInPrompts = c.signInPrompts := by
  have hstep : c.step e = (c.noting e).finish n (.failed .sentTooEarly) := by
    rw [h.step_eq hc, rejectAnonymous, noting_session, if_pos hin]
  rw [hstep] at hsettled ⊢
  rw [finish_settled, noting_settled] at hsettled
  cases List.append_cancel_left hsettled
  exact ⟨rfl, noting_session c e, noting_signInPrompts c e⟩

/-! ### The main theorem -/

section runs

variable {options : Options} {store : Store} {now : Time.Instant} {es : List Event} {e : Event}
  {n : Nat} {error : CallError}

/-- Whoever leaves nobody signed in has had the application asked. -/
theorem Gone.of_prompts (hprompts : Prompts ((Client.new options store now).after es) e)
    (hout : (((Client.new options store now).after es).step e).session.isLoggedIn = false) :
    Gone (Client.new options store now) (es ++ [e]) := by
  have hc : ((Client.new options store now).after (es ++ [e])).Ledger :=
    (Ledger.new options store now).after (es ++ [e])
  have hstate : ((Client.new options store now).after (es ++ [e])).session.state = .loggedOut := by
    rw [after_concat]
    exact SingleFlight.isLoggedIn_eq_false.mp hout
  have hcoherent : ((Client.new options store now).after (es ++ [e])).session.Coherent :=
    hc.desk.coherent
  have hcredentials : ((Client.new options store now).after (es ++ [e])).session.credentials? =
      none := by
    rw [Session.credentials?, hcoherent.current_of_loggedOut hstate, Option.map_none]
  obtain ⟨past, period, rfl, habsence⟩ := exists_absence es e hout
  have hasked := habsence.asked hprompts
  rw [← List.append_assoc] at hasked
  exact ⟨hstate, hcredentials, past, period ++ [e], by rw [List.append_assoc], habsence, hasked⟩

/-- A rejection while somebody is signed in is no news about the session. -/
theorem Outrun.of_rejected (h : Rejected ((Client.new options store now).after es) e n)
    (hin : ((Client.new options store now).after es).session.isLoggedIn = true)
    (hsettled : (((Client.new options store now).after es).step e).settled =
      ((Client.new options store now).after es).settled ++ [(n, .failed error)]) :
    Outrun (Client.new options store now) es e n error := by
  have hc := (Ledger.new options store now).after es
  obtain ⟨hretryable, hsession, hprompts⟩ := h.outrun hc hin hsettled
  obtain ⟨t, r, hdenied, hstage, hkind⟩ := h.denied
  obtain ⟨past, sending, later, rfl, hsends⟩ :=
    bare_after options store now es hdenied.task hdenied.request hkind hstage
  have hc' := ((Ledger.new options store now).after past).step sending
  have hout := hsends.state
  rw [← hsends.session] at hout
  have hbetween : During (((Client.new options store now).after past).step sending) later
      SignsIn := by
    apply signsIn_between hc' hout
    rwa [after, List.foldl_append] at hin
  exact ⟨⟨t, r, hdenied, hstage, hkind, past, sending, later, rfl, hsends, hbetween⟩,
    hretryable, hin, hsession, hprompts⟩

end runs

/-- **Whoever is told that the session is over is told the truth.**  Take any run of a
client, an event that comes after it, and a call among those that the event ends: it fails
with the end of the session.

Then nobody is signed in, and there are no credentials; the application has been asked for
the sign-in in the time without a session that the run has come to.  The only exception is
a regular request that was sent without credentials while nobody was signed in and is
refused now that somebody is.  The failure says then that a retry may help, and session,
credentials, record and prompt are left as they are. -/
theorem expired_is_gone (options : Options) (store : Store) (now : Time.Instant)
    (es : List Event) (e : Event) (ended : List (Nat × Client.Outcome)) (n : Nat)
    (error : CallError)
    (hended : (((Client.new options store now).after es).step e).settled =
      ((Client.new options store now).after es).settled ++ ended)
    (hcall : (n, .failed error) ∈ ended) (hexpired : error.isSessionExpired = true) :
    Gone (Client.new options store now) (es ++ [e]) ∨
      Outrun (Client.new options store now) es e n error := by
  have hc := (Ledger.new options store now).after es
  have hpassed := passed_spec hc e
  have hsettled := hpassed.settled_of_mem hended hcall
  rcases hpassed.expired hsettled hexpired with hdismissed | hrejected
  · -- the call has ended the session, or ends with it
    have hsigns : SignsOut ((Client.new options store now).after es) e :=
      Or.inr ⟨n, error, hdismissed⟩
    apply Or.inl
    apply Gone.of_prompts (Or.inl hsigns)
    rw [SingleFlight.isLoggedIn_eq_false, hsigns.session hc, signOut_session]
    exact Session.signOut_state _
  · by_cases hin : ((Client.new options store now).after es).session.isLoggedIn = true
    · -- somebody has signed in since the request was sent
      exact Or.inr (.of_rejected hrejected hin hsettled)
    · apply Or.inl
      apply Gone.of_prompts (Or.inr ⟨n, hrejected⟩)
      rw [hrejected.session hc, Session.isLoggedIn, Session.claimPrompt_state]
      exact Bool.not_eq_true _ ▸ hin

/-- The request of `anonymousClient` is refused, and the application is told that a retry
may help. -/
theorem expired_is_gone_outrun :
    (anonymousClient.step (.reply 0 denying)).settled =
      anonymousClient.settled ++ [(0, .failed .sentTooEarly)] ∧
    Outrun (Client.new {} .inMemory epoch)
      [.spawn (.ok page), .go 0, .signIn "a@b.c" "pw", .go 0, .reply 1 (granting "one")]
      (.reply 0 denying) 0 .sentTooEarly := by
  have hsettled : (anonymousClient.step (.reply 0 denying)).settled =
      anonymousClient.settled ++ [(0, .failed .sentTooEarly)] := by cbv
  have hstate : (anonymousClient.step (.reply 0 denying)).session.state = .loggedIn .first := by
    decide +kernel
  refine ⟨hsettled, ?_⟩
  rcases expired_is_gone {} .inMemory epoch _ (.reply 0 denying) _ 0 .sentTooEarly hsettled
    List.mem_cons_self rfl with hgone | houtrun
  · -- the session goes on
    have hout := hgone.state
    rw [after_concat] at hout
    cases hstate.symm.trans hout
  · exact houtrun

end Client

end SessionKeeper
