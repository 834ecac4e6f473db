import Mathlib.Data.List.Perm.Subperm
import Mathlib.Data.List.ProdSigma
import SessionKeeper.Proofs.Client.History

/-! # How much is sent

The service may refuse everything for ever, and any number of tasks may share a
flight.  Still no run sends much: every task sends its request at most twice, and
launches at most one flight ahead of time and one after a refusal.  So a run sends
at most four requests for each task, those of the flights included.

Two things are counted.

* What a task may still ask for grows less with every stage that it comes to
  (`Stage.mayAsk`), so the log of the flights that were launched has no entry twice
  (`launches_nodup`).
* A flight sends at most one request, after it was launched (`departures_le`).

Mathlib gives the pairs of the members of two lists. -/

namespace SessionKeeper

namespace Client

/-! ### The log of flights -/

/-- The task that launches a flight in an event, and the occasion on which it does. -/
def launched? (c : Client) (e : Event) : Option (Nat × Occasion) :=
  match c.desk.flight, (c.step e).desk.flight with
  | none, some ⟨_, n :: _⟩ =>
    match (c.step e).tasks[n]? with
    | some ⟨_, _, .waiting occasion _ _⟩ => some (n, occasion)
    | _ => none
  | _, _ => none

/-- Who launched flights in a run, and on which occasions. -/
def launches (c : Client) : List Event → List (Nat × Occasion)
  | [] => []
  | e :: es => (c.launched? e).toList ++ (c.step e).launches es

/-- A flight is launched in an event by a task that asks, and there was none before;
or no flight begins. -/
inductive Launched (c : Client) (e : Event) : Option (Nat × Occasion) → Prop where
  | none : Launched c e none
  | some {n : Nat} {t : Task} {occasion : Occasion} {g : Generation}
      (asks : Asks c n e occasion g) (task : (c.step e).tasks[n]? = some t)
      (stage : t.stage = .waiting occasion g false) : Launched c e (some (n, occasion))

theorem launched?_of_flight {c : Client} {e : Event}
    (h : (c.step e).desk.flight.isSome = true → c.desk.flight.isSome = true) :
    c.launched? e = none := by
  unfold launched?
  cases hbefore : c.desk.flight with
  | some flight => rfl
  | none =>
    cases hafter : (c.step e).desk.flight with
    | none => rfl
    | some flight =>
      rw [hbefore, hafter] at h
      cases h rfl

section launched

variable {c c' : Client} {e : Event}

theorem boarding_noting_le : (c.noting e).boarding.length ≤ c.boarding.length := by
  cases e with
  | go place => exact ((List.eraseIdx_sublist _ _).filterMap _).length_le
  | _ => exact Nat.le_refl _

/-- A flight that begins is not about to begin any more. -/
theorem boarding_noting_launch {place : Nat} {g : Generation} {current : Credentials}
    (hstep : c.ready[place]? = some (.launch g current)) :
    (c.noting (.go place)).boarding.length + 1 = c.boarding.length := by
  obtain ⟨l₁, l₂, hready, hrest⟩ := split_of_getElem? hstep
  simp only [boarding, noting, hrest]
  simp only [hready, List.filterMap_append, List.filterMap_cons, Step.launched?,
    List.length_append, List.length_cons]
  omega

/-- What becomes of the flights in an event: whether one is launched, and how many
requests they have sent or are about to send. -/
structure Flown (c : Client) (e : Event) (c' : Client) : Prop where
  launched : Launched c e (c.launched? e)
  requests : c'.departures.length + c'.boarding.length ≤
    c.departures.length + c.boarding.length + (c.launched? e).toList.length

/-- Most events launch nothing. -/
theorem Flown.of_flight (hstep : c.step e = c')
    (hflight : c'.desk.flight.isSome = true → c.desk.flight.isSome = true)
    (hle : c'.departures.length + c'.boarding.length ≤ c.departures.length + c.boarding.length) :
    Flown c e c' := by
  have hnone := launched?_of_flight (hstep ▸ hflight)
  refine ⟨?_, Nat.le_add_right_of_le hle⟩
  rw [hnone]
  exact .none

/-- What a task does launches a flight if the task asks and there is none. -/
theorem Acted.flown {n : Nat} {t : Task} (h : Acted c e n t c') (hstep : c.step e = c')
    (htask : c.tasks[n]? = some t) : Flown c e c' := by
  have hnoted := boarding_noting_le (c := c) (e := e)
  have hdesk : (c.noting e).desk.flight.isSome = true → c.desk.flight.isSome = true := by
    rw [noting_desk]
    exact id
  have hsends : ∀ stage signed, c' = ((c.noting e).setStage n stage).transmit (.task n) signed →
      Flown c e c' := by
    rintro stage signed rfl
    have hdepartures : ((c.noting e).setStage n stage).departures = c.departures :=
      departures_noting c e
    refine .of_flight hstep hdesk ?_
    rw [departures_transmit, hdepartures]
    show (c.departures ++ []).length + (c.noting e).boarding.length ≤ _
    rw [List.append_nil]
    omega
  cases h with
  | sendsFirst request due shown authorized => exact hsends _ _ rfl
  | sendsAgain request hears authorized => exact hsends _ _ rfl
  | joins asks under =>
    refine .of_flight hstep (fun _ => by rw [under]; rfl) ?_
    show (c.noting e).departures.length + (c.noting e).boarding.length ≤ _
    rw [departures_noting]
    omega
  | @launches occasion g current asks idle state now =>
    have htask' : (c.step e).tasks[n]? = some { t with stage := .waiting occasion g false } := by
      rw [hstep]
      simp only [enable, setStage, List.getElem?_modify, noting_tasks, htask, if_true]
      rfl
    have hflight : (c.step e).desk.flight = some ⟨g, [n]⟩ := by
      rw [hstep]
      rfl
    have hlaunched : c.launched? e = some (n, occasion) := by
      simp only [launched?, idle, hflight, htask']
    refine ⟨by rw [hlaunched]; exact .some asks htask' rfl, ?_⟩
    rw [hlaunched]
    show (c.noting e).departures.length +
      (((c.noting e).ready ++ [Step.launch g current]).filterMap Step.launched?).length ≤ _
    rw [departures_noting, List.filterMap_append, List.length_append]
    show c.departures.length + ((c.noting e).boarding.length + 1) ≤
      c.departures.length + c.boarding.length + 1
    omega
  | ends ended =>
    obtain @⟨d, hbeside⟩ := ended
    have hboarding : d.boarding = (c.noting e).boarding := by rw [boarding, hbeside.ready]; rfl
    refine .of_flight hstep (by rw [finish_desk, hbeside.flight]; exact hdesk) ?_
    show d.departures.length + d.boarding.length ≤ _
    rw [hbeside.departures, hboarding, departures_noting]
    omega

/-- **Step.**  Flights are launched by tasks that ask, and a flight sends one request at
most. -/
theorem Happened.flown (h : Happened c e c') (hstep : c.step e = c') : Flown c e c' := by
  have hnoted := boarding_noting_le (c := c) (e := e)
  cases h with
  | idle beside =>
    refine .of_flight hstep (by rw [beside.flight]; exact id) (Nat.le_of_eq ?_)
    simp only [beside.departures, boarding, beside.ready]
  | ignored quiet noReply nobody =>
    refine .of_flight hstep (by rw [noting_desk]; exact id) ?_
    rw [departures_noting]
    omega
  | spawned purpose request =>
    refine .of_flight hstep id (Nat.le_of_eq ?_)
    simp [departures, boarding, spawn, enable, Step.launched?]
  | aborted n => exact .of_flight hstep id (Nat.le_refl _)
  | acted task concerns quiet acted => exact acted.flown hstep task
  | departs event step request =>
    subst event
    have hboards := boarding_noting_launch step
    refine .of_flight hstep id ?_
    rw [departures_transmit, departures_noting, List.length_append]
    show _ + 1 + (c.noting _).boarding.length ≤ _
    omega
  | @lands g result calling =>
    refine .of_flight hstep (fun hsome => ?_) ?_
    · obtain ⟨flight, hflight⟩ := Option.isSome_iff_exists.mp hsome
      rw [← noting_desk c e, flight_of_settleFlight _ hflight]
      rfl
    · rw [departures_settleFlight, boarding_settleFlight, departures_noting]
      omega

end launched

/-! ### What a task may still ask for -/

/-- Whether a task that has come to a stage may yet launch a flight on an occasion. -/
def Stage.mayAsk : Stage → Occasion → Bool
  | .starting, _ => true
  | .waiting .ahead _ superseded, .ahead => superseded
  | .waiting .ahead _ _, .refused => true
  | .waiting .refused _ superseded, .refused => superseded
  | .sent _, .refused => true
  | _, _ => false

/-- Whether task `n` may yet launch a flight on an occasion. -/
def mayAsk (c : Client) (n : Nat) (occasion : Occasion) : Bool :=
  match (c.file n).task with
  | some t => t.stage.mayAsk occasion
  | none => true

section mayAsk

variable {c : Client} {e : Event} {n : Nat} {t : Task} {occasion other : Occasion} {g : Generation}

theorem mayAsk_of_task (htask : (c.file n).task = some t) :
    c.mayAsk n occasion = t.stage.mayAsk occasion := by
  simp only [mayAsk, htask]

theorem Asks.mayAsk (h : Asks c n e occasion g) : c.mayAsk n occasion = true := by
  cases h with
  | ahead step task request stage kind current due => rw [mayAsk_of_task task, stage]; rfl
  | refused awaited task request stage kind status => rw [mayAsk_of_task task, stage]; rfl
  | again step task stage =>
    rw [mayAsk_of_task task, stage]
    cases occasion <;> rfl

/-- Whoever waits has no more to ask for than before. -/
theorem Asks.mayAsk_of_waiting (h : Asks c n e occasion g) {superseded : Bool}
    (hother : (Stage.waiting occasion g superseded).mayAsk other = true) :
    c.mayAsk n other = true := by
  cases h with
  | ahead step task request stage kind current due => rw [mayAsk_of_task task, stage]; rfl
  | refused awaited task request stage kind status =>
    rw [mayAsk_of_task task, stage]
    cases other with
    | ahead => cases hother
    | refused => rfl
  | again step task stage =>
    rw [mayAsk_of_task task, stage]
    cases occasion <;> cases other <;> first | rfl | cases hother

/-- **Step.**  What a task may not ask for any more it may not ask for later. -/
theorem mayAsk_step (hc : c.Ledger) (e : Event) (n : Nat) (other : Occasion)
    (h : (c.step e).mayAsk n other = true) : c.mayAsk n other = true := by
  cases htask : c.tasks[n]? with
  | none => simp only [Client.mayAsk, file, htask]
  | some t =>
    obtain ⟨stage, hafter⟩ := task_step hc e htask
    have hcame := came_spec hc e hafter
    rw [mayAsk_of_task hafter] at h
    rw [htask] at hcame
    simp only at hcame h
    cases hcame with
    | stays => rwa [mayAsk_of_task htask]
    | waits asks => exact asks.mayAsk_of_waiting h
    | sends due =>
      cases other with
      | ahead => cases h
      | refused =>
        rw [mayAsk_of_task htask]
        rcases due with hstart | ⟨g, superseded, hwait⟩
        · rw [hstart]; rfl
        · rw [hwait]; rfl
    | sendsAgain => cases h
    | ends => cases h

/-- **Run.**  No task launches two flights on one occasion. -/
theorem launches_nodup (hc : c.Ledger) (es : List Event) :
    (c.launches es).Nodup ∧ ∀ p ∈ c.launches es, c.mayAsk p.1 p.2 = true := by
  induction es generalizing c with
  | nil => exact ⟨List.nodup_nil, fun _ hp => by cases hp⟩
  | cons e es ih =>
    obtain ⟨hnodup, hmay⟩ := ih (hc.step e)
    have hlaunched := ((hc.happened e).flown rfl).launched
    unfold launches
    generalize hlog : c.launched? e = log at hlaunched
    cases hlaunched with
    | none => exact ⟨hnodup, fun p hp => mayAsk_step hc e _ _ (hmay p hp)⟩
    | @some n t occasion g asks task stage =>
      refine ⟨List.nodup_cons.mpr ⟨fun hmem => ?_, hnodup⟩, fun p hp => ?_⟩
      · -- having launched a flight, the task has had its turn
        have hlater := hmay _ hmem
        rw [mayAsk_of_task task, stage] at hlater
        cases occasion <;> cases hlater
      · rcases List.mem_cons.mp hp with rfl | hlater
        · exact asks.mayAsk
        · exact mayAsk_step hc e _ _ (hmay p hlater)

/-- **Run.**  A flight sends one request at most. -/
theorem departures_le (hc : c.Ledger) (es : List Event) :
    (c.after es).departures.length + (c.after es).boarding.length ≤
      c.departures.length + c.boarding.length + (c.launches es).length := by
  induction es generalizing c with
  | nil => exact Nat.le_refl _
  | cons e es ih =>
    have hstep := ((hc.happened e).flown rfl).requests
    have hlater := ih (hc.step e)
    rw [launches, List.length_append]
    show ((c.step e).after es).departures.length + ((c.step e).after es).boarding.length ≤ _
    omega

/-- **Run.**  Flights are launched by regular requests only. -/
theorem launches_regular (hc : c.Ledger) (es : List Event) :
    ∀ p ∈ c.launches es, ∃ t r, (c.after es).tasks[p.1]? = some t ∧ t.request = .ok r ∧
      r.kind = .regular := by
  induction es generalizing c with
  | nil => exact fun _ hp => by cases hp
  | cons e es ih =>
    intro p hp
    have hlaunched := ((hc.happened e).flown rfl).launched
    unfold launches at hp
    generalize c.launched? e = log at hlaunched hp
    cases hlaunched with
    | none => exact ih (hc.step e) p hp
    | @some n t' occasion g asks task stage =>
      rcases List.mem_cons.mp hp with rfl | hlater
      · obtain ⟨t, htask, -⟩ := asks.stage_cases
        have hkept := hc.kept n t htask
        obtain ⟨r, hr⟩ := asks.request htask hkept
        obtain ⟨stage, hafter⟩ := task_after hc (e :: es) htask
        exact ⟨_, r, hafter, hr, (asks.showed htask hr (hkept.showed r hr) false).kind_of_waiting⟩
      · exact ih (hc.step e) p hlater

/-- No task waits for credentials that are replaced ahead of time, nor will any. -/
structure Unhurried (c : Client) : Prop where
  window : c.options.window? = none
  stage : ∀ (n : Nat) (t : Task) g superseded, c.tasks[n]? = some t →
    t.stage ≠ .waiting .ahead g superseded

theorem Unhurried.not_asks (h : c.Unhurried) : ¬ Asks c n e .ahead g := by
  intro hasks
  cases hasks with
  | ahead step task request stage kind current due => simp [isDue, h.window] at due
  | again step task stage => exact h.stage n _ g true task stage

theorem Unhurried.step (h : c.Unhurried) (hc : c.Ledger) (e : Event) : (c.step e).Unhurried where
  window := by rw [(hc.happened e).options]; exact h.window
  stage n t g superseded ht hstage := by
    have hcame := came_spec hc e ht
    rw [hstage] at hcame
    generalize hbefore : c.tasks[n]? = before at hcame
    generalize hwait : Stage.waiting .ahead g superseded = stage at hcame
    cases hcame with
    | stays => exact h.stage n _ g superseded hbefore hwait.symm
    | waits asks =>
      cases hwait
      exact h.not_asks asks
    | _ => cases hwait

/-- **Run.**  No flight is launched ahead of time unless there is a window in which
that is done. -/
theorem launches_ne_ahead (hc : c.Ledger) (h : c.Unhurried) (es : List Event) :
    ∀ p ∈ c.launches es, p.2 ≠ .ahead := by
  induction es generalizing c with
  | nil => exact fun _ hp => by cases hp
  | cons e es ih =>
    intro p hp
    have hlaunched := ((hc.happened e).flown rfl).launched
    unfold launches at hp
    generalize c.launched? e = log at hlaunched hp
    cases hlaunched with
    | none => exact ih (hc.step e) (h.step hc e) p hp
    | some asks task stage =>
      rcases List.mem_cons.mp hp with rfl | hlater
      · rintro rfl
        exact h.not_asks asks
      · exact ih (hc.step e) (h.step hc e) p hlater

end mayAsk

/-! ### Counting -/

/-- The tasks that have a request to send. -/
def requesters (c : Client) : List Nat :=
  (c.tasks.zipIdx.filter (·.1.request.isOk)).map (·.2)

/-- The task that a request was sent for. -/
def Owner.task? : Owner → Option Nat
  | .task n => some n
  | .flight _ => none

/-- The tasks that have sent requests, once for each request. -/
def senders (c : Client) : List Nat :=
  c.sent.filterMap (·.owner.task?)

section counting

variable {c : Client}

theorem mem_requesters {n : Nat} :
    n ∈ c.requesters ↔ ∃ t r, c.tasks[n]? = some t ∧ t.request = .ok r := by
  simp only [requesters, List.mem_map, List.mem_filter]
  constructor
  · rintro ⟨⟨t, n'⟩, ⟨hmem, hok⟩, rfl⟩
    cases hr : t.request with
    | ok r => exact ⟨t, r, List.mk_mem_zipIdx_iff_getElem?.mp hmem, hr⟩
    | error error =>
      rw [hr] at hok
      cases hok
  · rintro ⟨t, r, ht, hr⟩
    exact ⟨(t, n), ⟨List.mk_mem_zipIdx_iff_getElem?.mpr ht, by rw [hr]; rfl⟩, rfl⟩

theorem length_requesters : c.requesters.length = (c.tasks.filter (·.request.isOk)).length := by
  have hmap := List.filter_map (f := Prod.fst) (p := fun t : Task => t.request.isOk)
    (l := c.tasks.zipIdx)
  rw [List.zipIdx_map_fst] at hmap
  rw [hmap, requesters, List.length_map, List.length_map]
  rfl

theorem length_sent : c.sent.length = c.senders.length + c.departures.length := by
  unfold senders departures
  induction c.sent with
  | nil => rfl
  | cons s l ih =>
    rw [List.length_cons, ih]
    cases h : s.owner <;> simp [h, Owner.task?, Owner.flight?] <;> omega

theorem count_senders (n : Nat) : c.senders.count n = (c.sentBy (.task n)).length := by
  unfold senders sentBy
  induction c.sent with
  | nil => rfl
  | cons s l ih =>
    cases h : s.owner with
    | flight g => simpa [h, Owner.task?] using ih
    | task m =>
      by_cases hm : m = n
      · simpa [h, hm, Owner.task?] using ih
      · simpa [h, hm, Owner.task?] using ih

/-- Only a task with a request sends it, and at most twice. -/
theorem Ledger.sentBy_cases (hc : c.Ledger) (n : Nat) :
    c.sentBy (.task n) = [] ∨
      ∃ t r, c.tasks[n]? = some t ∧ t.request = .ok r ∧ Showed r t.stage (c.sentBy (.task n)) := by
  cases htask : c.tasks[n]? with
  | none => exact Or.inl (congrArg File.sent (hc.vacant n (List.getElem?_eq_none_iff.mp htask)))
  | some t =>
    have hkept := hc.kept n t htask
    cases hr : t.request with
    | error error => exact Or.inl (hkept.unbuilt error hr).1
    | ok r => exact Or.inr ⟨t, r, rfl, hr, hkept.showed r hr⟩

theorem Ledger.length_sentBy_le (hc : c.Ledger) (n : Nat) : (c.sentBy (.task n)).length ≤ 2 := by
  rcases hc.sentBy_cases n with hnil | ⟨t, r, -, -, hshowed⟩
  · rw [hnil]
    exact Nat.zero_le 2
  · exact hshowed.length_le

/-- All tasks together send at most two requests each. -/
theorem Ledger.length_senders_le (hc : c.Ledger) :
    c.senders.length ≤ 2 * c.requesters.length := by
  refine length_le_of_count (fun n hn => ?_) fun n => ?_
  · have hpos := List.count_pos_iff.mpr hn
    rw [count_senders] at hpos
    rcases hc.sentBy_cases n with hnil | ⟨t, r, ht, hr, -⟩
    · rw [hnil] at hpos
      cases hpos
    · exact mem_requesters.mpr ⟨t, r, ht, hr⟩
  · rw [count_senders]
    exact hc.length_sentBy_le n

/-- All tasks together launch at most two flights each. -/
theorem Ledger.length_launches_le (hc : c.Ledger) (es : List Event) :
    (c.launches es).length ≤ 2 * (c.after es).requesters.length := by
  have hsub : c.launches es ⊆ (c.after es).requesters ×ˢ [Occasion.ahead, .refused] :=
    fun p hp => by
      obtain ⟨t, r, ht, hr, -⟩ := launches_regular hc es p hp
      refine List.mem_product.mpr ⟨mem_requesters.mpr ⟨t, r, ht, hr⟩, ?_⟩
      cases p.2 <;> simp
  have hle := ((launches_nodup hc es).1.subperm hsub).length_le
  rw [List.length_product] at hle
  rw [Nat.mul_comm]
  exact hle

end counting

/-! ### The main theorem -/

/-- **Little is sent.**  Take any run of a client.

* A task sends its request at most twice.
* If it has sent it twice, then the request is regular; it was sent first with the
  credentials that the session had then, and answered 401; after that the task
  heard of credentials newer than those, and it was sent again with these.
* Other requests are sent once at most, and their tasks launch no flights.
* No task launches two flights on one occasion, and none ahead of time if the
  client has no threshold.
* A flight sends one request at most.
* So there are at most four requests for each task that has one. -/
theorem sent_bounded (options : Options) (store : Store) (now : Time.Instant) (es : List Event) :
    let c₀ := Client.new options store now
    let c := c₀.after es
    (∀ n, (c.sentBy (.task n)).length ≤ 2) ∧
    (∀ n first second, c.sentBy (.task n) = [first, second] →
      ∃ t r used fresh, c.tasks[n]? = some t ∧ t.request = .ok r ∧
        HasRenewed c₀ es n r first second used fresh) ∧
    (∀ n t r, c.tasks[n]? = some t → t.request = .ok r → r.kind ≠ .regular →
      (c.sentBy (.task n)).length ≤ 1 ∧ ∀ occasion, (n, occasion) ∉ c₀.launches es) ∧
    (c₀.launches es).Nodup ∧
    (options.refreshThreshold = 0 → ∀ n, (n, .ahead) ∉ c₀.launches es) ∧
    c.departures.length ≤ (c₀.launches es).length ∧
    c.sent.length ≤ 4 * (c.tasks.filter (·.request.isOk)).length := by
  intro c₀ c
  have hc₀ : c₀.Ledger := .new options store now
  have hc : c.Ledger := hc₀.after es
  have hdepartures : c.departures.length ≤ (c₀.launches es).length := by
    have hle : c.departures.length + c.boarding.length ≤ 0 + 0 + (c₀.launches es).length :=
      departures_le hc₀ es
    omega
  refine ⟨hc.length_sentBy_le, fun n first second hsent => ?_, fun n t r ht hr hkind => ⟨?_, ?_⟩,
    (launches_nodup hc₀ es).1, fun hzero n hmem => ?_, hdepartures, ?_⟩
  · rcases hc.sentBy_cases n with hnil | ⟨t, r, ht, hr, -⟩
    · rw [hnil] at hsent
      cases hsent
    · have htold := told_after options store now es n t ht
      obtain ⟨used, fresh, hrenewed⟩ := htold.renewed r first second hr hsent
      exact ⟨t, r, used, fresh, ht, hr, hrenewed⟩
  · exact ((hc.kept n t ht).showed r hr).length_le_one hkind
  · intro occasion hmem
    obtain ⟨t', r', ht', hr', hregular⟩ := launches_regular hc₀ es _ hmem
    cases ht'.symm.trans ht
    cases hr'.symm.trans hr
    exact hkind hregular
  · have hwindow : c₀.options.window? = none := by
      show options.window? = none
      simp [Options.window?, hzero]
    exact launches_ne_ahead hc₀ ⟨hwindow, fun _ _ _ _ ht => by cases ht⟩ es _ hmem rfl
  · have hsenders := hc.length_senders_le
    have hlaunches : (c₀.launches es).length ≤ 2 * c.requesters.length :=
      hc₀.length_launches_le es
    rw [length_sent, ← length_requesters]
    omega

end Client

end SessionKeeper
