import SessionKeeper.Proofs.Client.Attempts
import SessionKeeper.Proofs.Client.ExpiredCalls
import SessionKeeper.Proofs.Client.Queue

/-! # Credentials that are about to expire are not sent

A regular request that finds its credentials about to expire asks for newer ones before it is
sent.  What it sends then is not what it was answered but what the session has at that time,
and between the answer and that time others may sign in and out, or replace the credentials
once more.  It is newer than what the request has found all the same.

* A session that has come past a generation does not come back to it (`Session.Past`): the
  credentials in use later are newer, if there are any.
* A flight that is no older than a generation leaves a session behind that has come past it,
  whatever the flight has come to (`Landed.past`).
* So whoever waits ahead of time and is about to be woken for good will find a session that
  has come past the generation for which it asked (`Poised`).
* Until then a task that waits ahead of time waits for the same generation
  (`Stage.Awaiting`), and it sends nothing.

No more of Mathlib than the imports bring. -/

namespace SessionKeeper

open SingleFlight (Landed Moved)

/-! ### Sessions that have come past a generation -/

namespace Session

variable {s s' : Session} {g : Generation}

/-- A session has handed out generation `g`, and has no credentials of it, nor older ones. -/
structure Past (s : Session) (g : Generation) : Prop where
  issued : g.number ≤ s.issued
  newer : ∀ x, s.current = some x → g < x.generation

theorem Past.follows (h : s.Past g) (hfollows : s.Follows s') : s'.Past g where
  issued := Nat.le_trans h.issued hfollows.issued_le
  newer x hx := by
    rcases hfollows.fresh x hx with hold | hnew
    · exact h.newer x hold
    · have hissued := h.issued
      rw [Generation.lt_iff]
      omega

/-- Whoever has credentials of another generation than one that was handed out has newer
ones. -/
theorem Past.of_ne (hs : s.Coherent) (hissued : g.number ≤ s.issued)
    (hne : ∀ x, s.current = some x → x.generation ≠ g) : s.Past g where
  issued := hissued
  newer x hx := by
    have hnumber := hs.number_of_current hx
    have hother : x.generation.number ≠ g.number := fun heq =>
      hne x hx (congrArg Generation.mk heq)
    rw [Generation.lt_iff]
    omega

end Session

namespace SingleFlight

variable {f f' : SingleFlight} {s s' : Session} {g h : Generation} {outcome : Outcome}
  {result : Except CallError Credentials}

/-- **Whatever a flight comes to, the session has come past its generation.** -/
theorem Landed.past (hlanded : Landed s h result outcome s') (hs : s.Coherent)
    (hissued : h.number ≤ s.issued) (hle : g ≤ h) : s'.Past g := by
  rw [Generation.le_iff] at hle
  cases hlanded with
  | replaced state returned =>
    -- what has come is of the next generation, which is above all that were handed out
    refine ⟨by rw [Session.replaced_issued]; omega, fun x hx => ?_⟩
    rw [Session.replaced_current] at hx
    cases hx
    have hnext := s.nextGeneration_number
    rw [Generation.lt_iff]
    show g.number < s.nextGeneration.number
    omega
  | failed state returned =>
    refine ⟨by rw [Session.ended_issued]; omega, fun x hx => ?_⟩
    rw [Session.ended_current] at hx
    cases hx
  | @overtaken h' x state newer current =>
    -- others have signed in since, after the flight was launched
    refine ⟨by omega, fun y hy => ?_⟩
    rw [current] at hy
    cases hy
    rw [Generation.lt_iff] at newer ⊢
    show g.number < h'.number
    omega
  | ended state =>
    refine ⟨by omega, fun x hx => ?_⟩
    rw [hs.current_of_loggedOut state] at hx
    cases hx

theorem Moved.follows (h : Moved f f') : f.session.Follows f'.session := by
  cases h with
  | same => exact .refl _
  | asked asked => exact asked.follows
  | landed under landed => exact landed.follows
  | signedIn c => exact .signIn _ c
  | signedOut => exact (Session.Follows.signOut _).trans (.claimPrompt _)
  | prompted => exact .claimPrompt _
  | stored store => exact .of_same rfl rfl fun _ hg => hg

end SingleFlight

namespace Client

variable {c : Client} {e : Event} {n : Nat} {t : Task} {r : Http.Request} {occasion : Occasion}
  {g : Generation} {outcome : SingleFlight.Outcome}

/-- **Step.**  A session goes on, or others come after it. -/
theorem session_follows (hc : c.Ledger) (e : Event) : c.session.Follows (c.step e).session :=
  ((step_spec hc.desk e).moved hc.desk).follows

/-- **Run.**  A session goes on, or others come after it. -/
theorem follows_after (hc : c.Ledger) (es : List Event) :
    c.session.Follows (c.after es).session := by
  induction es generalizing c with
  | nil => exact .refl _
  | cons e es ih => exact (session_follows hc e).trans (ih (hc.step e))

/-! ### Who is woken, and by whom -/

/-- **Step.**  Nobody is newly about to be woken but those whose flight has landed. -/
theorem landed_of_woken (hc : c.Ledger) (h : .wake n outcome ∈ (c.step e).ready) :
    .wake n outcome ∈ c.ready ∨ ∃ flight result, c.desk.flight = some flight ∧
      n ∈ flight.waiters ∧
      Landed c.session flight.generation result outcome (c.step e).session := by
  have hnoting := noting_ready_subset c e (.wake n outcome)
  have hhappened := hc.happened e
  generalize c.step e = c' at h hhappened
  cases hhappened with
  | idle beside =>
    rw [beside.ready] at h
    exact Or.inl h
  | ignored quiet noReply nobody => exact Or.inl (hnoting h)
  | spawned purpose request =>
    have hready : .wake n outcome ∈ c.ready ++ [.start c.tasks.length] := h
    simp only [List.mem_append, List.mem_singleton, reduceCtorEq, or_false] at hready
    exact Or.inl hready
  | aborted n => exact Or.inl h
  | departs event step request => exact Or.inl (hnoting h)
  | acted task concerns quiet acted =>
    cases acted with
    | sendsFirst request due shown authorized => exact Or.inl (hnoting h)
    | sendsAgain request hears authorized => exact Or.inl (hnoting h)
    | joins asks under => exact Or.inl (hnoting h)
    | @launches occasion g current asks idle state now =>
      have hready : .wake n outcome ∈ (c.noting e).ready ++ [.launch g current] := h
      simp only [List.mem_append, List.mem_singleton, reduceCtorEq, or_false] at hready
      exact Or.inl (hnoting hready)
    | ends ended =>
      obtain @⟨d, hbeside⟩ := ended
      have hready : .wake n outcome ∈ d.ready := h
      rw [hbeside.ready] at hready
      exact Or.inl (hnoting hready)
  | @lands g result calling =>
    obtain ⟨flight, hflight, rfl⟩ := hc.flight_of_calling calling
    have hs : (c.noting e).desk.Sound := by rw [noting_desk]; exact hc.desk
    obtain ⟨outcome', s, hlanded, heq⟩ := settleFlight_of_flight (c.noting e) hs
      ((congrArg SingleFlight.flight (noting_desk c e)).trans hflight) result
    rw [noting_session] at hlanded
    rw [heq] at h ⊢
    rcases List.mem_append.mp h with hold | hnew
    · exact Or.inl (hnoting hold)
    · obtain ⟨m, hm, hwake⟩ := List.mem_map.mp hnew
      cases hwake
      exact Or.inr ⟨flight, result, hflight, hm, hlanded⟩

/-- A task that was to send its request does not wait for an outcome any more. -/
theorem Attempts.not_waits {used : Option Credentials} {stage : Stage} (hc : c.Ledger)
    (h : Attempts n r c e used stage) (ht : (c.step e).tasks[n]? = some t) :
    t.stage.waits = false := by
  obtain ⟨t₀, htask, -⟩ := h.task
  have htask' : (c.noting e).tasks[n]? = some t₀ := by rw [noting_tasks, htask]
  obtain ⟨stage', hsend, hstage⟩ := send_stage (r := r) htask' used stage
  rw [h.step_eq hc] at ht
  cases hsend.symm.trans ht
  rcases hstage with rfl | rfl
  · cases h with
    | _ => rfl
  · rfl

/-- Neither does whoever has heard an outcome. -/
theorem Hears.not_waits (hc : c.Ledger) (h : Hears c n e occasion g outcome)
    (ht : (c.step e).tasks[n]? = some t) : t.stage.waits = false := by
  cases outcome with
  | error refusal =>
    have hdone := (h.unsent hc).1
    rw [ht] at hdone
    rw [show t.stage = .done from Option.some.inj hdone]
    rfl
  | ok x =>
    obtain ⟨t₀, r, htask, hr, -⟩ := h.step_eq hc
    cases occasion with
    | ahead => exact (Attempts.ahead htask hr h).not_waits hc ht
    | refused => exact (Attempts.again htask hr h).not_waits hc ht

/-! ### Who waits ahead of time -/

/-- Whoever waits ahead of time waits for a generation that was handed out; and if he is
about to be woken for good, the session has come past it. -/
structure Poised (c : Client) : Prop where
  issued : ∀ (n : Nat) (t : Task) g superseded, c.tasks[n]? = some t →
    t.stage = .waiting .ahead g superseded → g.number ≤ c.session.issued
  past : ∀ (n : Nat) (t : Task) g outcome, c.tasks[n]? = some t →
    t.stage = .waiting .ahead g false → .wake n outcome ∈ c.ready → c.session.Past g

theorem Poised.new (options : Options) (store : Store) (now : Time.Instant) :
    (Client.new options store now).Poised :=
  ⟨fun _ _ _ _ ht => (by cases ht), fun _ _ _ _ ht => (by cases ht)⟩

/-- Whoever asks ahead of time asks for a generation that was handed out. -/
theorem Poised.issued_of_asks (h : c.Poised) (hc : c.Ledger) (hasks : Asks c n e .ahead g) :
    g.number ≤ c.session.issued := by
  cases hasks with
  | ahead step task request stage kind current due =>
    exact Nat.le_of_eq (hc.desk.coherent.number_of_current current)
  | again step task stage =>
    -- it asks for what it has asked before
    exact h.issued n _ g true task stage

/-- **Step.**  Those who wait ahead of time stay so, whatever happens to the session. -/
theorem Poised.step (h : c.Poised) (hc : c.Ledger) (hq : c.Queued) (e : Event) :
    (c.step e).Poised := by
  have hfollows := session_follows hc e
  constructor
  · intro n t g superseded ht hstage
    have hcame := came_spec hc e ht
    rw [hstage] at hcame
    generalize hbefore : c.tasks[n]? = before at hcame
    generalize hwait : Stage.waiting .ahead g superseded = stage at hcame
    cases hcame with
    | stays =>
      have hold := h.issued n _ g superseded hbefore hwait.symm
      exact Nat.le_trans hold hfollows.issued_le
    | waits asks =>
      cases hwait
      exact Nat.le_trans (h.issued_of_asks hc asks) hfollows.issued_le
    | _ => cases hwait
  · intro n t g outcome ht hstage hwake
    have hcame := came_spec hc e ht
    rw [hstage] at hcame
    generalize hbefore : c.tasks[n]? = before at hcame
    generalize hwait : Stage.waiting .ahead g false = stage at hcame
    cases hcame with
    | @stays t₀ =>
      rcases landed_of_woken hc hwake with hold | ⟨flight, result, hflight, hmem, hlanded⟩
      · exact (h.past n t₀ g outcome hbefore hwait.symm hold).follows hfollows
      · -- the flight that has landed was no older than what the task waits for
        have hunder := (hq.placed n t₀ hbefore).under flight .ahead g false hflight hmem hwait.symm
        have hle : g ≤ flight.generation := Generation.isOlder_eq_false.mp hunder.symm
        have hissued := (hc.desk.awaits flight hflight).issued
        exact hlanded.past hc.desk.coherent hissued hle
    | waits asks =>
      cases hwait
      rcases asks.hears_or_waits hc with
        ⟨outcome', hhears⟩ | ⟨t₀, s, -, -, -, flight, hflight, hmem⟩
      · have hnot := hhears.not_waits hc ht
        rw [hstage] at hnot
        cases hnot
      · -- whoever has just come to stand in line is not woken yet
        have hwaiters : n ∈ (c.step e).waiters := by
          simp only [waiters, hflight, Option.map_some, Option.getD_some]
          exact hmem
        have hlive : t.stage ≠ .done := by
          intro hdone
          cases hstage.symm.trans hdone
        exact absurd hwake ((hq.step hc e).not_woken ht hlive hwaiters outcome)
    | _ => cases hwait

/-- **Run.**  Whoever is about to be woken for good finds a session that has come past what
he has waited for. -/
theorem Poised.after (h : c.Poised) (hc : c.Ledger) (hq : c.Queued) (es : List Event) :
    (c.after es).Poised := by
  induction es generalizing c with
  | nil => exact h
  | cons e es ih => exact ih (h.step hc hq e) (hc.step e) (hq.step hc e)

/-- **Whoever hears ahead of time that there are newer credentials finds newer ones in use,
or none.** -/
theorem Hears.past {x : Credentials} (h : Hears c n e .ahead g (.ok x)) (hpoised : c.Poised)
    (hc : c.Ledger) : c.session.Past g := by
  cases h with
  | landed event step task stage =>
    exact hpoised.past n _ g _ task stage (List.mem_of_getElem? step)
  | atOnce asks answered =>
    -- an answer at once means that what is in use is not what was asked to be replaced
    have hissued := hpoised.issued_of_asks hc asks
    refine .of_ne hc.desk.coherent hissued fun used hcurrent hsame => ?_
    subst hsame
    exact SingleFlight.not_answered hc.desk hcurrent n _ answered

/-! ### From the check to the first sending -/

/-- A task that has begun and does not wait ahead of time for any other generation. -/
structure Stage.Awaiting (g : Generation) (stage : Stage) : Prop where
  begun : stage ≠ .starting
  same : ∀ h superseded, stage = .waiting .ahead h superseded → h = g

/-- Such a task does not ask for another generation ahead of time. -/
theorem Asks.generation_eq {g' : Generation} (hasks : Asks c n e .ahead g')
    (htask : c.tasks[n]? = some t) (h : t.stage.Awaiting g) : g' = g := by
  cases hasks with
  | ahead step task request stage kind current due =>
    cases htask.symm.trans task
    exact absurd stage h.begun
  | again step task stage =>
    cases htask.symm.trans task
    exact h.same _ _ stage

/-- **Step.**  A task does not come to wait for another generation ahead of time. -/
theorem awaiting_step (hc : c.Ledger) (htask : c.tasks[n]? = some t) (h : t.stage.Awaiting g)
    (e : Event) : ∃ stage, (c.step e).tasks[n]? = some { t with stage } ∧ stage.Awaiting g := by
  obtain ⟨stage, hlater⟩ := task_step hc e htask
  refine ⟨stage, hlater, ?_⟩
  have hcame := came_spec hc e hlater
  rw [htask] at hcame
  simp only at hcame
  cases hcame with
  | stays => exact h
  | @waits _ occasion g' superseded asks =>
    refine ⟨nofun, fun g'' superseded' heq => ?_⟩
    cases heq
    exact asks.generation_eq htask h
  | sends due => exact ⟨nofun, nofun⟩
  | sendsAgain => exact ⟨nofun, nofun⟩
  | ends => exact ⟨nofun, nofun⟩

/-- **Run.**  A task does not come to wait for another generation ahead of time. -/
theorem awaiting_after (hc : c.Ledger) (htask : c.tasks[n]? = some t) (h : t.stage.Awaiting g)
    (es : List Event) : ∃ stage, (c.after es).tasks[n]? = some { t with stage } ∧
      stage.Awaiting g := by
  induction es generalizing c t with
  | nil => exact ⟨t.stage, htask, h⟩
  | cons e es ih =>
    obtain ⟨stage, hlater, hawaiting⟩ := awaiting_step hc htask h e
    obtain ⟨stage', hend, hawaiting'⟩ := ih (hc.step e) hlater hawaiting
    exact ⟨stage', hend, hawaiting'⟩

/-- What a task sends first that has waited ahead of time. -/
theorem first_of_awaiting {first : Http.Request} (hpoised : c.Poised) (hc : c.Ledger)
    (htask : c.tasks[n]? = some t) (hr : t.request = .ok r) (h : t.stage.Awaiting g)
    (hnone : c.sentBy (.task n) = []) (hsent : (c.step e).sentBy (.task n) = [first]) :
    c.session.Past g ∧ authorize r c.session.credentials? = .ok first := by
  have hsends : (c.step e).sentBy (.task n) ≠ c.sentBy (.task n) := by
    rw [hsent, hnone]
    nofun
  obtain ⟨r', used, stage, signed, hattempts, hauthorized, hlist⟩ := attempted_of_sends hc hsends
  rw [hsent, hnone] at hlist
  cases hlist
  obtain ⟨t', htask', hr'⟩ := hattempts.task
  cases htask.symm.trans htask'
  cases hr.symm.trans hr'
  cases hattempts with
  | bare starts kind =>
    obtain ⟨purpose, hstart⟩ := starts.task
    cases htask.symm.trans hstart
    exact absurd rfl h.begun
  | begins starts kind lasting =>
    obtain ⟨purpose, hstart⟩ := starts.task
    cases htask.symm.trans hstart
    exact absurd rfl h.begun
  | @ahead _ g' x task request hears =>
    have hsame : g' = g := by
      cases hears with
      | atOnce asks answered => exact asks.generation_eq htask h
      | landed event step task stage =>
        cases htask.symm.trans task
        exact h.same _ _ stage
    subst hsame
    exact ⟨hears.past hpoised hc, hauthorized⟩
  | again task request hears =>
    -- a task that was refused has sent something before
    cases (hears.sentBy_eq_nil_iff hc).mp hnone

/-! ### Tasks that have ended -/

/-- **Step.**  A task that has ended sends nothing more. -/
theorem ended_step (hc : c.Ledger) (htask : c.tasks[n]? = some t) (hdone : t.stage = .done)
    (e : Event) : (c.step e).tasks[n]? = some t ∧
      (c.step e).sentBy (.task n) = c.sentBy (.task n) := by
  cases fate_spec hc e n with
  | same file => exact ⟨(congrArg File.task file).trans htask, congrArg File.sent file⟩
  | spawned stage vacant file =>
    rw [vacant] at htask
    cases htask
  | aborted file =>
    refine ⟨(congrArg File.task file).trans ?_, congrArg File.sent file⟩
    show c.tasks[n]?.map _ = some t
    rw [htask, Option.map_some, ← hdone]
  | acted task concerns acted =>
    cases htask.symm.trans task
    exact absurd hdone concerns.live

/-- **Run.**  A task that has ended sends nothing more. -/
theorem sentBy_of_ended (hc : c.Ledger) (htask : c.tasks[n]? = some t) (hdone : t.stage = .done)
    (es : List Event) : (c.after es).sentBy (.task n) = c.sentBy (.task n) := by
  induction es generalizing c with
  | nil => rfl
  | cons e es ih =>
    obtain ⟨hlater, hsame⟩ := ended_step hc htask hdone e
    exact (ih (hc.step e) hlater).trans hsame

/-- **Whoever hears that there are no newer credentials ends together with the session, and
sends nothing more.** -/
theorem Hears.ends {refusal : Refusal} (h : Hears c n e occasion g (.error refusal))
    (hc : c.Ledger) :
    (c.step e).settled = c.settled ++ [(n, .failed refusal.toCallError)] ∧
      refusal.toCallError.isSessionExpired = true ∧
      ∀ es, ((c.step e).after es).sentBy (.task n) = c.sentBy (.task n) := by
  have hdismissed : Dismissed c e n refusal.toCallError := .unrenewed h
  obtain ⟨hdone, hsent⟩ := h.unsent hc
  obtain ⟨t, htask, hstage⟩ := Option.map_eq_some_iff.mp hdone
  refine ⟨?_, hdismissed.isSessionExpired, fun es => ?_⟩
  · rw [hdismissed.step_eq hc, expel_settled, noting_settled]
  · exact (sentBy_of_ended (hc.step e) htask hstage es).trans hsent

/-! ### The main theorem -/

/-- A request whose credentials will last asks for nothing when it begins. -/
theorem Checks.not_asks {used : Snapshot} (h : Checks n r used c e)
    (hlasting : c.isDue used.credentials = false) : ¬ Asks c n e occasion g := by
  obtain ⟨⟨⟨place, rfl, hstep⟩, purpose, htask⟩, -, hcurrent⟩ := h
  intro hasks
  cases hasks with
  | ahead step task request stage kind current due =>
    cases hcurrent.symm.trans current
    rw [hlasting] at due
    cases due
  | again step task stage => cases hstep.symm.trans step

/-- A task that comes to wait ahead of time waits for one generation. -/
theorem Stage.Awaiting.waiting (superseded : Bool) :
    (Stage.waiting .ahead g superseded).Awaiting g := by
  refine ⟨nofun, fun h superseded' heq => ?_⟩
  cases heq
  rfl

/-- Whoever is shown a session that has come past a generation shows newer credentials, or
none. -/
theorem shows_of_past {s : Session} {first : Http.Request} (h : s.Past g)
    (hs : s.Coherent) (hauthorized : authorize r s.credentials? = .ok first) :
    (∃ x, s.current = some x ∧ g < x.generation ∧ authorize r (some x.credentials) = .ok first) ∨
      s.state = .loggedOut ∧ first = r := by
  rw [Session.credentials?] at hauthorized
  cases hcurrent : s.current with
  | some x =>
    rw [hcurrent] at hauthorized
    exact Or.inl ⟨x, rfl, h.newer x hcurrent, hauthorized⟩
  | none =>
    rw [hcurrent] at hauthorized
    cases hauthorized
    have hout : s.isLoggedIn = false := by rw [hs.isLoggedIn_eq, hcurrent, Option.isSome_none]
    exact Or.inr ⟨SingleFlight.isLoggedIn_eq_false.mp hout, rfl⟩

/-- **Credentials that are about to expire are not sent.**  Take any run of a client, and let a
task with a regular request begin after it, while there are credentials in use.

If these are about to expire, then the task sends nothing yet, but asks for newer ones.
Whenever the task sends something for the first time later, this is the request with the
credentials that the session has at that time, and they are of a newer generation; or it is
the request as it is, and nobody is signed in.  If the task hears that there are no newer
credentials, it fails with the end of the session and never sends anything.

If they are not about to expire, then the task asks for nothing, and the session stays as it
is.  The request is sent with these credentials at once, if they can stand in a request. -/
theorem sends_newer (options : Options) (store : Store) (now : Time.Instant) (es : List Event)
    (e : Event) (n : Nat) (r : Http.Request) (used : Snapshot)
    (hchecks : Checks n r used ((Client.new options store now).after es) e) :
    let c := (Client.new options store now).after es
    (c.isDue used.credentials = true →
      Asks c n e .ahead used.generation ∧ (c.step e).sentBy (.task n) = [] ∧
      ∀ later e', let d := (c.step e).after later
        (∀ first, d.sentBy (.task n) = [] → (d.step e').sentBy (.task n) = [first] →
          (∃ x, d.session.current = some x ∧ used.generation < x.generation ∧
            authorize r (some x.credentials) = .ok first) ∨
          d.session.state = .loggedOut ∧ first = r) ∧
        ∀ g refusal, Hears d n e' .ahead g (.error refusal) →
          (d.step e').settled = d.settled ++ [(n, .failed refusal.toCallError)] ∧
          refusal.toCallError.isSessionExpired = true ∧
          ∀ rest, ((d.step e').after rest).sentBy (.task n) = []) ∧
    (c.isDue used.credentials = false →
      (∀ occasion g, ¬ Asks c n e occasion g) ∧ (c.step e).desk = c.desk ∧
      (Http.isFieldValue used.credentials.authorization = true →
        ∃ first, authorize r (some used.credentials) = .ok first ∧
          (c.step e).sentBy (.task n) = [first])) := by
  intro c
  have hc : c.Ledger := (Ledger.new options store now).after es
  have hq : c.Queued := (Queued.new options store now).after (.new options store now) es
  have hpoised : (c.step e).Poised :=
    ((Poised.new options store now).after (.new options store now) (.new options store now) es).step
      hc hq e
  have hnil : c.sentBy (.task n) = [] := hchecks.starts.unsent hc
  refine ⟨fun hdue => ?_, fun hlasting => ⟨fun _ _ => hchecks.not_asks hlasting, ?_⟩⟩
  · obtain ⟨t, superseded, htask, hr, hwaits, hsame, -⟩ := hchecks.waits hc hdue
    refine ⟨hchecks.asks hdue, by rw [hsame, hnil], fun later e' => ?_⟩
    intro d
    have hd : d.Ledger := (hc.step e).after later
    have hpoised : d.Poised := hpoised.after (hc.step e) (hq.step hc e) later
    -- the task still waits for the generation that it has found, if it waits ahead of time
    obtain ⟨stage, hend, hawaiting⟩ := awaiting_after (hc.step e) hwaits (.waiting superseded) later
    refine ⟨fun first hnone hsent => ?_, fun g refusal hhears => ?_⟩
    · obtain ⟨hpast, hauthorized⟩ := first_of_awaiting hpoised hd hend hr hawaiting hnone hsent
      exact shows_of_past hpast hd.desk.coherent hauthorized
    · obtain ⟨hsettled, hexpired, hrest⟩ := hhears.ends hd
      have hunsent := (hhears.sentBy_eq_nil_iff hd).mpr rfl
      exact ⟨hsettled, hexpired, fun rest => (hrest rest).trans hunsent⟩
  · have hattempts : Attempts n r c e c.session.credentials? (.sent c.session.current) := by
      refine .begins hchecks.starts hchecks.kind fun x hx => ?_
      cases hchecks.current.symm.trans hx
      exact hlasting
    have hcredentials : c.session.credentials? = some used.credentials := by
      rw [Session.credentials?, hchecks.current, Option.map_some]
    rw [hcredentials] at hattempts
    refine ⟨hattempts.desk_eq hc, fun hfield => ?_⟩
    have hauthorized := authorize_of_isFieldValue r hfield
    obtain ⟨hsent, -⟩ := hattempts.sends hc hauthorized
    rw [hnil] at hsent
    exact ⟨_, hauthorized, hsent⟩

/-- Credentials that have expired by the start of 1970. -/
def expired : Credentials :=
  ⟨"one", "Bearer", none, some epoch⟩

/-- A client that was started with them, and has been handed a request. -/
def expiredClient : Client :=
  (Client.new { refreshThreshold := 60 } ⟨.memory (some expired.record), false⟩ epoch).after
    [.spawn (.ok page)]

/-- They are replaced first, and the request is sent with what has replaced them. -/
theorem sends_newer_renewed :
    let d := (expiredClient.step (.go 0)).after [.go 0, .reply 0 (granting "two")]
    Checks 0 page ⟨.first, expired⟩ expiredClient (.go 0) ∧ expiredClient.isDue expired = true ∧
    ∃ x first, d.session.current = some x ∧ Generation.first < x.generation ∧
      authorize page (some x.credentials) = .ok first ∧
      (d.step (.go 0)).sentBy (.task 0) = [first] ∧
      first.authorization? = some "Bearer two" := by
  intro d
  have hchecks : Checks 0 page ⟨.first, expired⟩ expiredClient (.go 0) :=
    ⟨⟨⟨0, rfl, by cbv⟩, .exchange, by cbv⟩, rfl, by decide +kernel⟩
  have hdue : expiredClient.isDue expired = true := by decide +kernel
  have hunsent : (d.sentBy (.task 0)).isEmpty = true := by decide +kernel
  have hone : ((d.step (.go 0)).sentBy (.task 0)).map (·.authorization?) = [some "Bearer two"] := by
    decide +kernel
  obtain ⟨first, hsent, hfirst⟩ := List.map_eq_singleton_iff.mp hone
  refine ⟨hchecks, hdue, ?_⟩
  obtain ⟨hexpires, -⟩ := sends_newer { refreshThreshold := 60 }
    ⟨.memory (some expired.record), false⟩ epoch [.spawn (.ok page)] (.go 0) 0 page
    ⟨.first, expired⟩ hchecks
  obtain ⟨-, -, hlater⟩ := hexpires hdue
  obtain ⟨hshown, -⟩ := hlater [.go 0, .reply 0 (granting "two")] (.go 0)
  rcases hshown first (List.isEmpty_iff.mp hunsent) hsent with
    ⟨x, hx, hnewer, hauthorized⟩ | ⟨hout, -⟩
  · exact ⟨x, first, hx, hnewer, hauthorized, hsent, hfirst⟩
  · -- somebody is signed in
    have hin : d.session.state = .loggedIn ⟨2⟩ := by decide +kernel
    cases hout.symm.trans hin

end Client

end SessionKeeper
