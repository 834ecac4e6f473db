import SessionKeeper.Proofs.Client.Ahead
import SessionKeeper.Proofs.Client.Finality
import SessionKeeper.Proofs.Client.History
import SessionKeeper.Proofs.Refresh.Overtaken

/-! # Whether to try again after a session is lost

A session is lost if it is being refreshed and the call for that ends without credentials.
All who wait are told the same then, among it whether asking again may help.  That is decided
by the service alone: it does not help exactly if the service has answered the call with a
status from 400 to 499 (`RefreshEndpoint.isRefusal_ending_iff`).  After a fault, any other
status, a success that issues nothing, a call that broke down, or a refresh token that cannot
be sent at all, it may.

The answer goes through several hands before a caller of the client hears of it: it becomes the
error of the call, the refusal that the waiters share, and the error with which their tasks
fail.  None of them changes it, neither for those who were refused nor for those whose
credentials were about to expire (`Doomed`, `lost_retryable`).

No more of Mathlib than the imports bring. -/

namespace SessionKeeper

open SingleFlight (Flight Outcome Landed)

/-! ### How the call ends -/

/-- The service answers with a status that puts the blame on the request. -/
def Client.Reply.Refuses (reply : Client.Reply) : Prop :=
  ∃ r, reply = .response r ∧ 400 ≤ r.status ∧ r.status ≤ 499

namespace Client.Reply

@[simp] theorem refuses_response (r : Http.Response) :
    Refuses (.response r) ↔ 400 ≤ r.status ∧ r.status ≤ 499 := by
  simp [Refuses]

@[simp] theorem not_refuses_fault (f : Http.TransportFault) : ¬ Refuses (.fault f) := by
  simp [Refuses]

@[simp] theorem not_refuses_crash : ¬ Refuses .crash := by
  simp [Refuses]

end Client.Reply

namespace RefreshEndpoint

variable {endpoint : RefreshEndpoint} {current : Credentials} {reply : Client.Reply}
  {error : CallError}

/-- How a call ends that is to replace `current`, if the reply to its request is this one. -/
def ending (endpoint : RefreshEndpoint) (current : Credentials) (reply : Client.Reply) :
    Traffic.Ending :=
  match endpoint.request current with
  | .error error => .returned (.error error)
  | .ok _ => endpoint.answered reply

theorem isRefusal_ofResponse (r : Http.Response) :
    (CallError.ofResponse r).isRefusal = true ↔ 400 ≤ r.status ∧ r.status ≤ 499 := by
  unfold CallError.ofResponse CallError.ofStatus
  by_cases hexpired : r.status = 401
  · rw [if_pos hexpired, hexpired]
    decide
  · rw [if_neg hexpired]
    by_cases hstatus : 400 ≤ r.status ∧ r.status ≤ 499
    · rw [if_pos hstatus]
      exact iff_of_true rfl hstatus
    · rw [if_neg hstatus]
      exact iff_of_false Bool.false_ne_true hstatus

/-- An error that a reply comes to is a refusal exactly if the service says so. -/
theorem isRefusal_answered_iff (h : (endpoint.answered reply).result = .error error) :
    error.isRefusal = true ↔ reply.Refuses := by
  cases reply with
  | crash =>
    cases h
    exact iff_of_false Bool.false_ne_true Client.Reply.not_refuses_crash
  | fault f =>
    cases h
    exact iff_of_false Bool.false_ne_true (Client.Reply.not_refuses_fault f)
  | response r =>
    have hresult : endpoint.outcome (.ok r) = .error error := h
    rw [Client.Reply.refuses_response]
    by_cases hsuccess : r.isSuccess = true
    · -- a success that issues nothing is nobody's refusal
      simp only [outcome, hsuccess, if_true] at hresult
      obtain ⟨cause, rfl⟩ := Client.internal_of_issuedBy hresult
      rw [Http.Response.isSuccess, Bool.and_eq_true, decide_eq_true_eq,
        decide_eq_true_eq] at hsuccess
      refine iff_of_false Bool.false_ne_true ?_
      omega
    · simp only [outcome, hsuccess] at hresult
      cases hresult
      exact isRefusal_ofResponse r

/-- A refresh token that cannot be sent is nobody else's fault. -/
theorem internal_of_request (h : endpoint.request current = .error error) :
    ∃ cause, error = .internal cause := by
  unfold request at h
  split at h
  · cases h
  · split at h
    · cases h
    · cases h
      exact ⟨_, rfl⟩

/-- **A call ends with a refusal exactly if its request is sent and the service refuses it.** -/
theorem isRefusal_ending_iff (h : (endpoint.ending current reply).result = .error error) :
    error.isRefusal = true ↔
      (∃ request, endpoint.request current = .ok request) ∧ reply.Refuses := by
  unfold ending at h
  cases hrequest : endpoint.request current with
  | error unsent =>
    rw [hrequest] at h
    cases h
    obtain ⟨cause, rfl⟩ := internal_of_request hrequest
    refine iff_of_false Bool.false_ne_true ?_
    rintro ⟨⟨request, heq⟩, -⟩
    cases heq
  | ok request =>
    rw [hrequest] at h
    rw [isRefusal_answered_iff h]
    exact ⟨fun hrefuses => ⟨⟨request, rfl⟩, hrefuses⟩, And.right⟩

end RefreshEndpoint

/-- The flag of a refusal says whether the error was one. -/
theorem Refusal.not_retryable_iff (error : CallError) :
    (Refusal.ofError error).retryable = false ↔ error.isRefusal = true := by
  rw [Refusal.retryable_ofError, Bool.not_eq_false']

/-- A flight for which the session waits, and which fails, ends the session. -/
theorem SingleFlight.Landed.of_error {s s' : Session} {g : Generation} {error : CallError}
    {outcome : Outcome} (h : Landed s g (.error error) outcome s')
    (hstate : s.state = .refreshing g) :
    outcome = .error (.ofError error) ∧ s' = s.ended := by
  cases h with
  | replaced state returned => cases returned
  | failed state returned =>
    cases returned
    exact ⟨rfl, rfl⟩
  | overtaken state newer current => cases hstate.symm.trans state
  | ended state => cases hstate.symm.trans state

/-! ### Callers of the refresh -/

namespace Traffic

variable {t : Traffic} {place : Nat} {call : Call} {endpoint : RefreshEndpoint}
  {reply : Client.Reply} {error : CallError}

/-- **Whoever waits for a call that loses the session is told the same.**  Those that have named
a generation that was handed out return it when they run. -/
theorem lost_settle (hs : t.Sound) (ha : t.Attached) (hplace : t.calls[place]? = some call)
    (hstate : t.desk.session.state = .refreshing call.generation) {ending : Ending}
    (hfails : ending.result = .error error) :
    let t' := t.step (.settle place ending)
    t'.desk = ⟨t.desk.session.ended, none⟩ ∧
    t.sent (.settle place ending) = t.waiters.map (·, .error (.ofError error)) ∧
    ∀ (n : Nat) refused superseded, t.callers[n]? = some (.waiting refused superseded) →
      n ∈ t.waiters ∧
      t'.callers[n]? = some (.woken refused superseded (.error (.ofError error))) ∧
      (refused.number ≤ t.desk.session.issued →
        superseded = false ∧ t'.turn n = .finish (.error (.ofError error))) := by
  intro t'
  have hspec := settleAt_spec hs place ending.result
  have hsent : t.sent (.settle place ending) = t.sends place ending.result := rfl
  have hstep : t' = t.settleAt place ending.result := rfl
  rw [hsent, hstep]
  generalize t.sends place ending.result = sent at hspec
  generalize t.settleAt place ending.result = t'' at hspec
  cases hspec with
  | nothing none => cases none.symm.trans hplace
  | @landed call' flight outcome s call_eq under generation landed =>
    have hcall : call' = call := by
      rw [call_eq] at hplace
      exact List.mem_singleton.mp (List.mem_of_getElem? hplace) |>.symm
    subst hcall
    rw [generation] at hstate
    rw [hfails] at landed
    obtain ⟨rfl, rfl⟩ := landed.of_error hstate
    refine ⟨by rw [wakeAll_desk], by rw [waiters_of_some under], ?_⟩
    intro n refused superseded hn
    have hmem : n ∈ t.waiters := ha.listed n (waits_iff.mpr ⟨_, _, hn⟩)
    have hwoken : (flight.waiters.foldl (wake (.error (.ofError error)))
        { t with calls := [], desk := ⟨t.desk.session.ended, none⟩ }).callers[n]? =
        some (.woken refused superseded (.error (.ofError error))) := by
      rw [waiters_of_some under] at hmem
      rw [wakeAll_callers, if_pos hmem]
      show Option.map _ t.callers[n]? = _
      rw [hn]
      rfl
    refine ⟨hmem, hwoken, ?_⟩
    intro hissued
    -- the session was being refreshed, so nothing newer than the flight was handed out
    have hnewest := hs.desk.coherent.number_of_refreshing hstate
    have hsuperseded : superseded = false := by
      rw [ha.superseded n refused superseded flight hn under, Generation.isOlder_eq_false,
        Generation.le_iff]
      omega
    subst hsuperseded
    refine ⟨rfl, ?_⟩
    simp only [turn, hwoken]
    rfl

end Traffic

namespace Client

/-! ### Tasks of a client -/

section events

variable {c : Client} {e : Event} {n place : Nat} {t : Task} {occasion : Occasion}
  {g : Generation} {result : Except CallError Credentials} {error : CallError} {refusal : Refusal}

/-- In an event the call ends that replaces the credentials of generation `g`, with a result. -/
inductive Settles (c : Client) (g : Generation) : Event → Except CallError Credentials → Prop where
  /-- Its request cannot be built. -/
  | unbuilt {place : Nat} {current : Credentials} {error : CallError}
      (step : c.ready[place]? = some (.launch g current))
      (request : c.options.endpoint.request current = .error error) :
      Settles c g (.go place) (.error error)
  /-- The reply to its request arrives. -/
  | answered {id : Nat} {reply : Reply} (awaited : c.awaiting.lookup id = some (.flight g)) :
      Settles c g (.reply id reply) (c.options.endpoint.answered reply).result

theorem Settles.calling (h : Settles c g e result) : c.calling? e = some g := by
  cases h with
  | unbuilt step request => simp [calling?, step, Step.launched?]
  | answered awaited => simp [calling?, awaited, Owner.flight?]

/-- A call that ends settles its flight. -/
theorem Settles.step_eq (h : Settles c g e result) :
    c.step e = (c.noting e).settleFlight g result := by
  cases h with
  | @unbuilt place current error step request =>
    simp only [Client.step, step, perform, request]
    rfl
  | answered awaited => exact step_flightReply awaited

/-- Such an end is a refusal exactly if the event brings one. -/
theorem Settles.isRefusal_iff (h : Settles c g e (.error error)) :
    error.isRefusal = true ↔ ∃ id reply, e = .reply id reply ∧ reply.Refuses := by
  generalize hresult : Except.error error = result at h
  cases h with
  | unbuilt step request =>
    cases hresult
    obtain ⟨cause, rfl⟩ := RefreshEndpoint.internal_of_request request
    refine iff_of_false Bool.false_ne_true ?_
    rintro ⟨id, reply, heq, -⟩
    cases heq
  | @answered id reply awaited =>
    rw [RefreshEndpoint.isRefusal_answered_iff hresult.symm]
    constructor
    · intro hrefuses
      exact ⟨id, reply, rfl, hrefuses⟩
    · rintro ⟨id', reply', heq, hrefuses⟩
      cases heq
      exact hrefuses

/-- A step that can go on can still do so after an event, unless it is the one that did. -/
theorem mem_step_ready (hc : c.Ledger) (e : Event) {s : Step} (h : s ∈ (c.noting e).ready) :
    s ∈ (c.step e).ready := by
  have hhappened := hc.happened e
  generalize c.step e = c' at hhappened
  cases hhappened with
  | idle beside =>
    rw [beside.ready]
    exact noting_ready_subset c e s h
  | ignored quiet noReply nobody => exact h
  | spawned purpose request => exact List.mem_append_left _ (noting_ready_subset c e s h)
  | aborted n => exact noting_ready_subset c e s h
  | acted task concerns quiet acted =>
    cases acted with
    | sendsFirst request due shown authorized => exact h
    | sendsAgain request hears authorized => exact h
    | joins asks under => exact h
    | launches asks idle state now => exact List.mem_append_left _ h
    | ends ended =>
      obtain ⟨hbeside⟩ := ended
      simp only [finish, setStage, hbeside.ready]
      exact h
  | departs event step request => exact h
  | lands calling => exact mem_settleFlight _ h _ _

/-- Task `n` has failed with a refusal, or waits to be woken with it and will not ask again, or
was dropped. -/
structure Doomed (n : Nat) (refusal : Refusal) (c : Client) : Prop where
  outcomes : ∀ o ∈ c.outcomesOf n, o = .failed (.sessionExpired refusal.retryable refusal.reason)
  task : ∃ t, c.tasks[n]? = some t ∧ (t.stage = .done ∨
    (∃ occasion g, t.stage = .waiting occasion g false) ∧ .wake n (.error refusal) ∈ c.ready)

/-- Nothing else than the refusal is what it is woken with. -/
theorem Doomed.hears (h : Doomed n refusal c) (hq : c.Queued) (htask : c.tasks[n]? = some t)
    (hlive : t.stage ≠ .done) {outcome : SingleFlight.Outcome}
    (hstep : c.ready[place]? = some (.wake n outcome)) :
    ∃ occasion g, Hears c n (.go place) occasion g (.error refusal) := by
  obtain ⟨t', htask', hdone | ⟨⟨occasion, g, hstage⟩, hwake⟩⟩ := h.task
  · cases htask.symm.trans htask'
    exact absurd hdone hlive
  · cases htask.symm.trans htask'
    have hconcerns : Concerns c n t (.go place) := .wake hstep hstage
    have hnone := (hq.placed n t htask).turns_of_concerns hconcerns
    have houtcome : outcome = .error refusal := by
      by_contra hother
      -- it would have been woken twice
      have hstill : .wake n (.error refusal) ∈ (c.noting (.go place)).ready := by
        refine mem_noting hwake ?_
        rintro place' heq hstep'
        cases heq
        cases hstep.symm.trans hstep'
        exact hother rfl
      have hwoken : 0 < (c.noting (.go place)).woken.count n :=
        List.count_pos_iff.mpr (List.mem_filterMap.mpr ⟨_, hstill, rfl⟩)
      unfold turns at hnone
      omega
    subst houtcome
    exact ⟨occasion, g, .landed rfl hstep htask hstage⟩

/-- When it is woken, it is told. -/
theorem Doomed.told (h : Doomed n refusal c) (hc : c.Ledger) (hq : c.Queued)
    (htask : c.tasks[n]? = some t) (hlive : t.stage ≠ .done) {outcome : SingleFlight.Outcome}
    (hstep : c.ready[place]? = some (.wake n outcome)) :
    (c.step (.go place)).settled =
        c.settled ++ [(n, .failed (.sessionExpired refusal.retryable refusal.reason))] ∧
      Doomed n refusal (c.step (.go place)) := by
  obtain ⟨occasion, g, hhears⟩ := h.hears hq htask hlive hstep
  have hexpel := (Dismissed.unrenewed hhears).step_eq hc
  obtain ⟨hcome, -, houtcomes⟩ :=
    Ended.own c (.go place) (expel_ended _ n refusal.toCallError) htask
  rw [hexpel]
  refine ⟨by rw [expel_settled, noting_settled]; rfl, ?_, _, hcome, Or.inl rfl⟩
  intro o ho
  have hlist : ((c.noting (.go place)).expel n refusal.toCallError).outcomesOf n =
      c.outcomesOf n ++ [.failed refusal.toCallError] := houtcomes
  rw [hlist] at ho
  rcases List.mem_append.mp ho with hold | hnew
  · exact h.outcomes o hold
  · exact List.mem_singleton.mp hnew

/-- **Step.**  Whoever is to be told that the session is lost is told so, whatever happens. -/
theorem Doomed.step (h : Doomed n refusal c) (hc : c.Ledger) (hq : c.Queued) (e : Event) :
    Doomed n refusal (c.step e) := by
  obtain ⟨t, htask, hstage⟩ := h.task
  by_cases hturn : t.stage ≠ .done ∧ ∃ place outcome, e = .go place ∧
      c.ready[place]? = some (.wake n outcome)
  · obtain ⟨hlive, place, outcome, rfl, hstep⟩ := hturn
    exact (h.told hc hq htask hlive hstep).2
  · have hsilent : (c.step e).outcomesOf n = c.outcomesOf n → ∀ o ∈ (c.step e).outcomesOf n,
        o = .failed (.sessionExpired refusal.retryable refusal.reason) := by
      intro houtcomes
      rw [houtcomes]
      exact h.outcomes
    cases fate_spec hc e n with
    | same file =>
      have htask' : (c.step e).tasks[n]? = some t := (congrArg File.task file).trans htask
      refine ⟨hsilent (congrArg File.outcomes file), t, htask', ?_⟩
      rcases hstage with hdone | ⟨⟨occasion, g, hwaits⟩, hwake⟩
      · exact Or.inl hdone
      · refine Or.inr ⟨⟨occasion, g, hwaits⟩, mem_step_ready hc e (mem_noting hwake ?_)⟩
        intro place heq hstep
        exact hturn ⟨by rw [hwaits]; nofun, place, _, heq, hstep⟩
    | spawned _ vacant file => cases vacant.symm.trans htask
    | aborted file =>
      refine ⟨hsilent (congrArg File.outcomes file), { t with stage := .done }, ?_, Or.inl rfl⟩
      refine (congrArg File.task file).trans ?_
      show c.tasks[n]?.map _ = _
      rw [htask]
      rfl
    | acted task concerns acted =>
      -- only a wake concerns a task that waits
      cases htask.symm.trans task
      rcases hstage with hdone | ⟨⟨occasion, g, hwaits⟩, hwake⟩
      · exact absurd hdone concerns.live
      · cases concerns with
        | start step stage => cases hwaits.symm.trans stage
        | wake step stage => exact absurd ⟨by rw [hwaits]; nofun, _, _, rfl, step⟩ hturn
        | reply awaited stage =>
          rw [hwaits] at stage
          cases stage

/-- **Run.**  Whoever is to be told that the session is lost is told so, whatever happens. -/
theorem Doomed.after (h : Doomed n refusal c) (hc : c.Ledger) (hq : c.Queued) (es : List Event) :
    Doomed n refusal (c.after es) := by
  induction es generalizing c with
  | nil => exact h
  | cons e es ih => exact ih (h.step hc hq e) (hc.step e) (hq.step hc e)

/-- As long as it is not done it can be woken, with the refusal only, and then it ends. -/
theorem Doomed.ends (h : Doomed n refusal c) (hc : c.Ledger) (hq : c.Queued) :
    (∀ o ∈ c.outcomesOf n, o = .failed (.sessionExpired refusal.retryable refusal.reason)) ∧
    ∀ t, c.tasks[n]? = some t → t.stage ≠ .done →
      (∃ place : Nat, c.ready[place]? = some (.wake n (.error refusal))) ∧
      ∀ (place : Nat) outcome, c.ready[place]? = some (.wake n outcome) →
        (c.step (.go place)).settled =
          c.settled ++ [(n, .failed (.sessionExpired refusal.retryable refusal.reason))] := by
  refine ⟨h.outcomes, ?_⟩
  intro t htask hlive
  constructor
  · obtain ⟨t', htask', hdone | ⟨-, hwake⟩⟩ := h.task
    · cases htask.symm.trans htask'
      exact absurd hdone hlive
    · exact List.mem_iff_getElem?.mp hwake
  · intro place outcome hwake
    exact (h.told hc hq htask hlive hwake).1

/-- **A call that fails while the session waits for it ends the session, and all who wait are
woken with the same refusal.** -/
theorem Settles.lost (h : Settles c g e (.error error)) (hc : c.Ledger)
    (hstate : c.session.state = .refreshing g) :
    ∃ flight, c.desk.flight = some flight ∧ flight.generation = g ∧
      c.step e = { c.noting e with desk := ⟨c.session.ended, none⟩ }.enable
        (flight.waiters.map (.wake · (.error (.ofError error)))) := by
  obtain ⟨flight, hflight, rfl⟩ := hc.flight_of_calling h.calling
  have hs : (c.noting e).desk.Sound := by rw [noting_desk]; exact hc.desk
  have hunder : (c.noting e).desk.flight = some flight := by rw [noting_desk, hflight]
  obtain ⟨outcome, s, hlanded, hsettle⟩ :=
    settleFlight_of_flight (c.noting e) hs hunder (.error error)
  rw [noting_session] at hlanded
  obtain ⟨rfl, rfl⟩ := hlanded.of_error hstate
  exact ⟨flight, hflight, rfl, by rw [h.step_eq, hsettle]⟩

theorem Stage.exists_of_waits {stage : Stage} (h : stage.waits = true) :
    ∃ occasion g superseded, stage = .waiting occasion g superseded := by
  cases stage with
  | waiting occasion g superseded => exact ⟨occasion, g, superseded, rfl⟩
  | _ => cases h

/-- Whoever waits for newer credentials wants to replace some that were handed out. -/
theorem issued_of_waiting (options : Options) (store : Store) (now : Time.Instant)
    (es : List Event) {superseded : Bool}
    (htask : ((Client.new options store now).after es).tasks[n]? = some t)
    (hstage : t.stage = .waiting occasion g superseded) :
    g.number ≤ ((Client.new options store now).after es).session.issued := by
  have hnew : (Client.new options store now).Ledger := .new options store now
  cases occasion with
  | ahead =>
    have hpoised := (Poised.new options store now).after hnew (.new options store now) es
    exact hpoised.issued n t g superseded htask hstage
  | refused =>
    -- it has shown them, and at that time they were in use
    obtain ⟨r, hr⟩ := (hnew.after es).request_of_waiting htask hstage
    obtain ⟨used, first, rfl, -, hshown, -⟩ :=
      (told_after options store now es n t htask).refused r g superseded hr hstage
    obtain ⟨past, e, later, rfl, hshows⟩ := hshown.shown
    have hpast := hnew.after past
    have hnewest := hpast.desk.coherent.number_of_current hshows.current
    have hfollows := follows_after hpast (e :: later)
    rw [← after_append] at hfollows
    exact Nat.le_trans (Nat.le_of_eq hnewest) hfollows.issued_le

/-- Whoever waits for a call that loses the session is to be told so, and will not ask again. -/
theorem Doomed.of_waiting {flight : Flight} {superseded : Bool} (hc : c.Ledger) (hq : c.Queued)
    (hflight : c.desk.flight = some flight) (hmem : n ∈ flight.waiters)
    (htask : c.tasks[n]? = some t) (hstage : t.stage = .waiting occasion g superseded)
    (hle : g.number ≤ flight.generation.number)
    (hstep : c.step e = { c.noting e with desk := ⟨c.session.ended, none⟩ }.enable
      (flight.waiters.map (.wake · (.error refusal)))) : Doomed n refusal (c.step e) := by
  have hsuperseded : superseded = false := by
    rw [(hq.placed n t htask).under flight occasion g superseded hflight hmem hstage]
    exact Generation.isOlder_eq_false.mpr hle
  subst hsuperseded
  have hlive : t.stage ≠ .done := by
    rw [hstage]
    nofun
  have htask' : (c.noting e).tasks[n]? = some t := by
    rw [noting_tasks]
    exact htask
  rw [hstep]
  refine ⟨?_, t, htask', Or.inr ⟨⟨occasion, g, hstage⟩, ?_⟩⟩
  · have hnone : (c.noting e).outcomesOf n = [] := by
      have houtcomes := (hc.kept n t htask).outcomes hlive
      rw [outcomesOf, noting_settled]
      exact houtcomes
    intro o ho
    have ho' : o ∈ (c.noting e).outcomesOf n := ho
    rw [hnone] at ho'
    cases ho'
  · exact List.mem_append_right _ (List.mem_map.mpr ⟨n, hmem, rfl⟩)

end events

/-! ### The main theorem -/

/-- **Whether to try again after a session is lost is for the service to say.**

First take any run of callers of the refresh, with any endpoint, and let the call end that is to
replace the credentials while the session waits for it, with any reply, but without new
credentials.  Then nobody is signed in, the record is gone if the store can be written, and all
who wait are sent the same refusal.  It says that there is no use in asking again exactly if the
request was sent and the service has answered with a status from 400 to 499.  Whoever has named a
generation that was handed out returns this refusal when it runs.

Then take any run of a client in which the same happens.  All who wait are woken with one
refusal, of which the same is true.  Whatever happens later, the task of whoever has waited,
because it was refused or because its credentials were about to expire, ends in no other way than
with the end of the session, and with the flag of the refusal.  As long as it was not dropped it
is about to, and ends so when it is woken. -/
theorem lost_retryable :
    (∀ (store : Store) (es : List Traffic.Event) (place : Nat) (call : Traffic.Call)
      (endpoint : RefreshEndpoint) (reply : Reply),
      let t := (Traffic.start (.restore store)).after es
      let ending := endpoint.ending call.credentials reply
      let t' := t.step (.settle place ending)
      t.calls[place]? = some call → t.desk.session.state = .refreshing call.generation →
      (∀ x, ending.result ≠ .ok x) →
      t'.desk.session.state = .loggedOut ∧ t'.desk.session.current = none ∧
      (t.desk.session.store.Writable → t'.desk.session.store.text? = none) ∧
      ∃ refusal : Refusal,
        (refusal.retryable = false ↔
          (∃ request, endpoint.request call.credentials = .ok request) ∧ reply.Refuses) ∧
        t.sent (.settle place ending) = t.waiters.map (·, .error refusal) ∧
        ∀ (n : Nat) refused superseded, t.callers[n]? = some (.waiting refused superseded) →
          n ∈ t.waiters ∧ t'.callers[n]? = some (.woken refused superseded (.error refusal)) ∧
          (refused.number ≤ t.desk.session.issued →
            superseded = false ∧ t'.turn n = .finish (.error refusal))) ∧
    (∀ (options : Options) (store : Store) (now : Time.Instant) (es : List Event) (e : Event)
      (g : Generation) (result : Except CallError Credentials),
      let c := (Client.new options store now).after es
      let c' := c.step e
      Settles c g e result → c.session.state = .refreshing g → (∀ x, result ≠ .ok x) →
      c'.session.state = .loggedOut ∧ c'.session.current = none ∧
      (c.session.store.Writable → c'.session.store.text? = none) ∧
      ∃ (flight : Flight) (refusal : Refusal), c.desk.flight = some flight ∧
        flight.generation = g ∧
        (refusal.retryable = false ↔ ∃ id reply, e = .reply id reply ∧ reply.Refuses) ∧
        c'.ready = (c.noting e).ready ++ flight.waiters.map (.wake · (.error refusal)) ∧
        ∀ (n : Nat) t occasion h superseded, n ∈ flight.waiters → c.tasks[n]? = some t →
          t.stage = .waiting occasion h superseded → ∀ later,
          let d := c'.after later
          let o : Client.Outcome := .failed (.sessionExpired refusal.retryable refusal.reason)
          (∀ o' ∈ d.outcomesOf n, o' = o) ∧
          ∀ t', d.tasks[n]? = some t' → t'.stage ≠ .done →
            (∃ place : Nat, d.ready[place]? = some (.wake n (.error refusal))) ∧
            ∀ (place : Nat) outcome, d.ready[place]? = some (.wake n outcome) →
              (d.step (.go place)).settled = d.settled ++ [(n, o)]) := by
  constructor
  · intro store es place call endpoint reply t ending t' hplace hstate hfails
    have h₀ : (Traffic.start (.restore store)).Sound := .start store
    have hs : t.Sound := h₀.after es
    have ha : t.Attached := (Traffic.Attached.start _).after h₀ es
    cases hresult : ending.result with
    | ok x => exact absurd hresult (hfails x)
    | error error =>
      obtain ⟨hdesk, hsent, hcallers⟩ := Traffic.lost_settle hs ha hplace hstate hresult
      have hdesk' : t'.desk = ⟨t.desk.session.ended, none⟩ := hdesk
      rw [hdesk']
      refine ⟨rfl, rfl, ?_, .ofError error, ?_, hsent, hcallers⟩
      · intro hwritable
        exact (Session.Over.of_ended hwritable).record
      · rw [Refusal.not_retryable_iff]
        exact RefreshEndpoint.isRefusal_ending_iff hresult
  · intro options store now es e g result c c' hsettles hstate hfails
    have hnew : (Client.new options store now).Ledger := .new options store now
    have hc : c.Ledger := hnew.after es
    have hq : c.Queued := (Queued.new options store now).after hnew es
    have hc' : c'.Ledger := hc.step e
    have hq' : c'.Queued := hq.step hc e
    cases result with
    | ok x => exact absurd rfl (hfails x)
    | error error =>
      obtain ⟨flight, hflight, hg, hstep⟩ := hsettles.lost hc hstate
      have hsession : c'.session = c.session.ended := congrArg Client.session hstep
      rw [hsession]
      refine ⟨rfl, rfl, ?_, flight, .ofError error, hflight, hg, ?_,
        congrArg Client.ready hstep, ?_⟩
      · intro hwritable
        exact (Session.Over.of_ended hwritable).record
      · rw [Refusal.not_retryable_iff]
        exact hsettles.isRefusal_iff
      · intro n t occasion h superseded hmem htask hstage later d o
        -- nothing newer than the flight was handed out, as the session was being refreshed
        have hissued := issued_of_waiting options store now es htask hstage
        have hnewest : g.number = c.session.issued := hc.desk.coherent.number_of_refreshing hstate
        have hle : h.number ≤ flight.generation.number := by
          rw [hg, hnewest]
          exact hissued
        have hdoomed : Doomed n (.ofError error) c' :=
          .of_waiting hc hq hflight hmem htask hstage hle hstep
        exact (hdoomed.after hc' hq' later).ends (hc'.after later) (hq'.after hc' later)

/-- A client whose credentials have expired is asked for a page, and they are being replaced. -/
def renewingClient : Client :=
  (Client.new { refreshThreshold := 60 } ⟨.memory (some expired.record), false⟩ epoch).after
    [.spawn (.ok page), .go 0, .go 0]

/-- A caller waits while the credentials of a session are being replaced. -/
def renewingTraffic : Traffic :=
  (Traffic.start (.restore .inMemory)).after
    [.signIn ⟨"old", "Bearer", none, none⟩, .spawn .first, .run 0]

/-- The call of the caller breaks down: it is told to try again.  The service forbids the client
to replace the credentials: the task is told that there is no use in that. -/
theorem lost_retryable_forbidden :
    (let ending := RefreshEndpoint.ending ⟨"/refresh", "key"⟩ ⟨"old", "Bearer", none, none⟩ .crash
      ∃ refusal, refusal.retryable = true ∧
        (renewingTraffic.step (.settle 0 ending)).turn 0 = .finish (.error refusal)) ∧
    let c' := renewingClient.step (.reply 0 (.response { status := 403 }))
    renewingClient.session.state = .refreshing .first ∧ c'.session.state = .loggedOut ∧
    ∃ reason, (c'.after [.go 0]).outcomesOf 0 = [.failed (.sessionExpired false reason)] := by
  obtain ⟨hcallers, hclients⟩ := lost_retryable
  constructor
  · intro ending
    have hcrashed : ending.result = .error (.internal .crashedRefresh) := rfl
    obtain ⟨-, -, -, refusal, hflag, -, htold⟩ := hcallers .inMemory
      [.signIn ⟨"old", "Bearer", none, none⟩, .spawn .first, .run 0] 0
      ⟨.first, ⟨"old", "Bearer", none, none⟩⟩ ⟨"/refresh", "key"⟩ .crash rfl rfl
      fun x hx => by cases hcrashed.symm.trans hx
    obtain ⟨-, -, hreturns⟩ := htold 0 .first false rfl
    refine ⟨refusal, ?_, (hreturns (by decide)).2⟩
    -- a crash is no answer
    rw [← Bool.not_eq_false]
    intro hfalse
    obtain ⟨-, r, heq, -⟩ := hflag.mp hfalse
    cases heq
  · intro c'
    have hstate : renewingClient.session.state = .refreshing .first := by decide +kernel
    have hsettles : Settles renewingClient .first (.reply 0 (.response { status := 403 }))
        (renewingClient.options.endpoint.answered (.response { status := 403 })).result :=
      .answered (by decide +kernel)
    have hforbidden :
        (renewingClient.options.endpoint.answered (.response { status := 403 })).result =
          .error (.ofResponse { status := 403 }) := rfl
    obtain ⟨hout, -, -, flight, refusal, hflight, -, hflag, -, htold⟩ :=
      hclients { refreshThreshold := 60 } ⟨.memory (some expired.record), false⟩ epoch
        [.spawn (.ok page), .go 0, .go 0] _ .first _ hsettles hstate
        fun x hx => by cases hforbidden.symm.trans hx
    have hretryable : refusal.retryable = false :=
      hflag.mpr ⟨0, _, rfl, _, rfl, by decide, by decide⟩
    have hwaiter : renewingClient.desk.flight.map (·.waiters) = some [0] := by decide +kernel
    have hmem : 0 ∈ flight.waiters := by
      have hlist : renewingClient.desk.flight = some flight := hflight
      rw [hlist, Option.map_some, Option.some.injEq] at hwaiter
      rw [hwaiter]
      exact List.mem_cons_self
    have hwaits : (renewingClient.tasks[0]?.map (·.stage.waits)) = some true := by decide +kernel
    obtain ⟨t, htask, hwait⟩ := Option.map_eq_some_iff.mp hwaits
    obtain ⟨occasion, g, superseded, hstage⟩ := Stage.exists_of_waits hwait
    obtain ⟨houtcomes, -⟩ := htold 0 t occasion g superseded hmem htask hstage [.go 0]
    have hone : ((c'.after [.go 0]).outcomesOf 0).length = 1 := by decide +kernel
    obtain ⟨o, ho⟩ := List.length_eq_one_iff.mp hone
    have hmember : o ∈ (c'.after [.go 0]).outcomesOf 0 := by
      rw [ho]
      exact List.mem_cons_self
    rw [houtcomes o hmember, hretryable] at ho
    exact ⟨hstate, hout, refusal.reason, ho⟩

end Client

end SessionKeeper
