import SessionKeeper.Proofs.Client.Mail

/-! # The books of a client

What a client keeps about its tasks, its requests and its flights agrees at all
times (`Ledger`).

* What a task has sent follows from how far it has come: nothing before it is
  `sent`, one request from then on, and two once it is `resent` (`Showed`).
* A task waits for one reply while it is `sent` or `resent`, and for none
  otherwise; it has an outcome only when it is `done`.
* For each flight there is one call, which is about to begin or waits for its
  reply; without a flight there is none.

An event touches the file of one task at most.  `fate_spec` says for every task
what an event does to it.

Core Lean 4 only; no Mathlib. -/

namespace SessionKeeper

open SingleFlight (Flight)

namespace Client

/-! ### What a task has sent -/

/-- What a task whose request is `r` has sent once it has come to a stage. -/
inductive Showed (r : Http.Request) : Stage → List Http.Request → Prop where
  | starting : Showed r .starting []
  | ahead {g : Generation} {superseded : Bool} (kind : r.kind = .regular) :
      Showed r (.waiting .ahead g superseded) []
  | sent {used : Option Snapshot} {signed : Http.Request} (kind : used = none ∨ r.kind = .regular)
      (authorized : authorize r (used.map (·.credentials)) = .ok signed) :
      Showed r (.sent used) [signed]
  | refused {used : Snapshot} {signed : Http.Request} {superseded : Bool}
      (kind : r.kind = .regular) (authorized : authorize r (some used.credentials) = .ok signed) :
      Showed r (.waiting .refused used.generation superseded) [signed]
  | resent {used fresh : Credentials} {first second : Http.Request} (kind : r.kind = .regular)
      (authorized : authorize r (some used) = .ok first)
      (again : authorize r (some fresh) = .ok second) : Showed r .resent [first, second]
  | done {stage : Stage} {sent : List Http.Request} (was : Showed r stage sent) :
      Showed r .done sent

namespace Showed

variable {r : Http.Request} {stage : Stage} {sent : List Http.Request}

theorem length_le (h : Showed r stage sent) : sent.length ≤ 2 := by
  induction h with
  | done was ih => exact ih
  | _ => simp

/-- Only regular requests are sent again. -/
theorem length_le_one (h : Showed r stage sent) (hkind : r.kind ≠ .regular) : sent.length ≤ 1 := by
  induction h with
  | resent kind => exact absurd kind hkind
  | done was ih => exact ih
  | _ => simp

theorem kind_of_waiting {occasion : Occasion} {g : Generation} {superseded : Bool}
    (h : Showed r (.waiting occasion g superseded) sent) : r.kind = .regular := by
  cases h with
  | ahead kind => exact kind
  | refused kind authorized => exact kind

/-- Whoever waits has sent his request exactly if he was refused. -/
theorem eq_nil_iff {occasion : Occasion} {g : Generation} {superseded : Bool}
    (h : Showed r (.waiting occasion g superseded) sent) : sent = [] ↔ occasion = .ahead := by
  cases h with
  | ahead kind => simp
  | refused kind authorized => simp

/-- A task that is to send its request for the first time has not sent anything. -/
theorem of_due {used : Option Snapshot} (h : Showed r stage sent)
    (hdue : stage = .starting ∧ (used = none ∨ r.kind = .regular) ∨
      ∃ g superseded, stage = .waiting .ahead g superseded) :
    sent = [] ∧ (used = none ∨ r.kind = .regular) := by
  rcases hdue with ⟨rfl, hkind⟩ | ⟨g, superseded, rfl⟩
  · cases h
    exact ⟨rfl, hkind⟩
  · cases h with
    | ahead kind => exact ⟨rfl, Or.inr kind⟩

end Showed

/-- The file of a task agrees with the task. -/
structure Kept (t : Task) (f : File) : Prop where
  showed : ∀ r, t.request = .ok r → Showed r t.stage f.sent
  /-- A task without a request does not do anything. -/
  unbuilt : ∀ error, t.request = .error error →
    f.sent = [] ∧ (t.stage = .starting ∨ t.stage = .done)
  awaited : f.awaited.length = if t.stage.awaitsReply then 1 else 0
  /-- A task has no outcome before it ends. -/
  outcomes : t.stage ≠ .done → f.outcomes = []

/-! ### The ledger -/

/-- The books of a client agree. -/
structure Ledger (c : Client) : Prop where
  desk : c.desk.Sound
  posted : c.Posted
  kept : ∀ n t, c.tasks[n]? = some t → Kept t (c.file n)
  /-- Nothing is kept about tasks that are not there yet. -/
  vacant : ∀ n, c.tasks.length ≤ n → c.file n = ⟨none, [], [], []⟩
  calls : c.calls = (c.desk.flight.map (·.generation)).toList
  /-- Replies come from outside only. -/
  answers : ∀ id reply, .answer id reply ∉ c.ready

/-! ### What becomes of a task -/

/-- What becomes of the file of task `n` in an event. -/
inductive Fate (c : Client) (e : Event) (n : Nat) (c' : Client) : Prop where
  /-- The event does not concern it. -/
  | same (file : c'.file n = c.file n)
  /-- It is handed over. -/
  | spawned {t : Task} (stage : t.stage = .starting) (vacant : c.tasks[n]? = none)
      (file : c'.file n = ⟨some t, [], [], []⟩)
  | aborted (file : c'.file n = { (c.file n).come .done with awaited := [] })
  | acted {t : Task} (task : c.tasks[n]? = some t) (concerns : Concerns c n t e)
      (acted : Acted c e n t c')

/-- To take note of a reply to somebody else is nothing to a task. -/
theorem file_noting_of_ne {c : Client} (h : c.Posted) {e : Event} {n : Nat}
    (hother : ∀ id reply, e = .reply id reply → c.awaiting.lookup id ≠ some (.task n) ∧
      ∃ owner, c.awaiting.lookup id = some owner) : (c.noting e).file n = c.file n := by
  rw [file_noting]
  cases e with
  | reply id reply =>
    obtain ⟨hne, owner, howner⟩ := hother id reply rfl
    refine File.hear_of_not_mem fun hmem => hne ?_
    have hmine : (id, .task n) ∈ c.awaiting := mem_awaitedBy.mp hmem
    rw [howner, h.owner_eq (mem_of_lookup howner) hmine]
  | _ => exact File.hear_none _

/-- What a task does is nothing to others. -/
theorem Acted.file_of_ne {c c' : Client} {e : Event} {n m : Nat} {t : Task}
    (h : Acted c e n t c') (hm : m ≠ n) : c'.file m = (c.noting e).file m := by
  have hn : Owner.task n ≠ .task m := fun heq => hm (by cases heq; rfl)
  cases h with
  | sendsFirst request due shown authorized =>
    rw [file_transmit, if_neg hn, file_setStage, if_neg hm]
  | sendsAgain request hears authorized =>
    rw [file_transmit, if_neg hn, file_setStage, if_neg hm]
  | joins asks under =>
    rw [file_setStage, if_neg hm]
    rfl
  | launches asks idle state now =>
    rw [file_enable, file_setStage, if_neg hm]
    rfl
  | ends ended => rw [ended.file, if_neg hm]

/-- Whoever waits for a reply is a task that has come so far. -/
theorem Ledger.awaits {c : Client} (h : c.Ledger) (id n : Nat)
    (hawaited : c.awaiting.lookup id = some (.task n)) :
    ∃ t r, c.tasks[n]? = some t ∧ t.request = .ok r ∧ t.stage.awaitsReply = true := by
  have hmem : id ∈ (c.file n).awaited := mem_awaitedBy.mpr (mem_of_lookup hawaited)
  cases htask : c.tasks[n]? with
  | none =>
    rw [h.vacant n (List.getElem?_eq_none_iff.mp htask)] at hmem
    cases hmem
  | some t =>
    have hkept := h.kept n t htask
    have hawaits : t.stage.awaitsReply = true := by
      cases hstage : t.stage.awaitsReply with
      | true => rfl
      | false =>
        have hlength := hkept.awaited
        rw [hstage] at hlength
        rw [List.eq_nil_of_length_eq_zero hlength] at hmem
        cases hmem
    cases hr : t.request with
    | ok r => exact ⟨t, r, rfl, hr, hawaits⟩
    | error error =>
      rcases (hkept.unbuilt error hr).2 with hstage | hstage
      · rw [hstage] at hawaits
        cases hawaits
      · rw [hstage] at hawaits
        cases hawaits

/-- There is one call at most. -/
theorem Ledger.length_calls_le {c : Client} (h : c.Ledger) : c.calls.length ≤ 1 := by
  rw [h.calls]
  cases c.desk.flight <;> simp

/-- A call belongs to the flight under way. -/
theorem Ledger.flight_of_mem {c : Client} (h : c.Ledger) {g : Generation} (hmem : g ∈ c.calls) :
    ∃ flight, c.desk.flight = some flight ∧ flight.generation = g := by
  rw [h.calls, Option.mem_toList] at hmem
  exact Option.map_eq_some_iff.mp hmem

/-- Once a flight waits for its reply, it is not about to begin, nor is any other. -/
theorem Ledger.boarding_of_awaited {c : Client} (h : c.Ledger) {id : Nat} {g : Generation}
    (hawaited : c.awaiting.lookup id = some (.flight g)) : g ∈ c.calls ∧ c.boarding = [] := by
  have hmem : g ∈ c.awaiting.filterMap (·.2.flight?) :=
    List.mem_filterMap.mpr ⟨_, mem_of_lookup hawaited, rfl⟩
  refine ⟨List.mem_append_right _ hmem, ?_⟩
  have hone := h.length_calls_le
  have hpos := List.length_pos_of_mem hmem
  rw [Client.calls, List.length_append] at hone
  exact List.eq_nil_of_length_eq_zero (by omega)

theorem Ledger.happened {c : Client} (h : c.Ledger) (e : Event) : Happened c e (c.step e) :=
  happened_spec h.desk h.answers h.awaits e

/-- **There is nothing else that can become of a task.** -/
theorem fate_spec {c : Client} (h : c.Ledger) (e : Event) (n : Nat) : Fate c e n (c.step e) := by
  have hhappened := h.happened e
  generalize c.step e = c' at hhappened
  cases hhappened with
  | idle beside => exact .same (beside.file n)
  | ignored quiet noReply nobody => exact .same (by rw [file_noting, noReply, File.hear_none])
  | spawned purpose request =>
    by_cases hn : n = c.tasks.length
    · have hvacant := h.vacant n (Nat.le_of_eq hn.symm)
      refine .spawned (t := ⟨purpose, request, .starting⟩) rfl (List.getElem?_eq_none (by omega)) ?_
      rw [file_spawn, if_pos hn, hvacant]
    · exact .same (by rw [file_spawn, if_neg hn])
  | aborted m =>
    by_cases hn : n = m
    · exact .aborted (by rw [file_abort, if_pos hn])
    · exact .same (by rw [file_abort, if_neg hn])
  | @acted m t _ task concerns quiet acted =>
    by_cases hn : n = m
    · subst hn
      exact .acted task concerns acted
    · refine .same ?_
      rw [acted.file_of_ne hn]
      refine file_noting_of_ne h.posted fun id reply heq => ?_
      subst heq
      cases concerns with
      | reply awaited stage =>
        refine ⟨fun hmine => hn ?_, _, awaited⟩
        rw [awaited] at hmine
        cases hmine
        rfl
  | departs event step request =>
    refine .same ?_
    rw [file_transmit, if_neg (by nofun)]
    refine file_noting_of_ne h.posted fun id reply heq => ?_
    rw [event] at heq
    cases heq
  | @lands g result calling =>
    refine .same ?_
    rw [file_settleFlight]
    refine file_noting_of_ne h.posted fun id reply heq => ?_
    subst heq
    obtain ⟨owner, howner, hflight⟩ := Option.bind_eq_some_iff.mp calling
    refine ⟨fun hmine => ?_, owner, howner⟩
    rw [howner] at hmine
    cases hmine
    cases hflight

/-! ### What a task does to its own file -/

section own

variable {c c' : Client} {e : Event} {n : Nat} {t : Task} {occasion : Occasion} {g : Generation}

/-- Whoever is concerned has not ended yet. -/
theorem Concerns.live (h : Concerns c n t e) : t.stage ≠ .done := by
  intro hdone
  cases h with
  | start step stage => rw [stage] at hdone; cases hdone
  | wake step stage => rw [stage] at hdone; cases hdone
  | reply awaited stage => rw [hdone] at stage; cases stage

/-- Whoever is concerned waits for no reply any more. -/
theorem Kept.heard (hkept : Kept t (c.file n)) (concerns : Concerns c n t e) :
    ((c.noting e).file n).awaited = [] := by
  rw [file_noting]
  have hlength := hkept.awaited
  cases concerns with
  | start step stage =>
    rw [stage] at hlength
    simp only [File.hear, List.eq_nil_of_length_eq_zero hlength, List.filter_nil]
  | wake step stage =>
    rw [stage] at hlength
    simp only [File.hear, List.eq_nil_of_length_eq_zero hlength, List.filter_nil]
  | @reply id' reply awaited stage =>
    rw [stage] at hlength
    obtain ⟨id, hid⟩ := List.length_eq_one_iff.mp hlength
    -- the one reply that it waited for is this one
    have hmem : id' ∈ (c.file n).awaited := mem_awaitedBy.mpr (mem_of_lookup awaited)
    rw [hid, List.mem_singleton] at hmem
    simp [File.hear, hid, hmem, Event.reply?]

/-- How far a task had come that asks. -/
theorem Asks.showed {r : Http.Request} {sent : List Http.Request}
    (h : Asks c n e occasion g) (htask : c.tasks[n]? = some t) (hr : t.request = .ok r)
    (hshowed : Showed r t.stage sent) (superseded : Bool) :
    Showed r (.waiting occasion g superseded) sent := by
  cases h with
  | ahead step task request stage kind current due =>
    rw [htask] at task
    cases task
    rw [hr] at request
    cases request
    rw [stage] at hshowed
    cases hshowed
    exact .ahead kind
  | refused awaited task request stage kind status =>
    rw [htask] at task
    cases task
    rw [hr] at request
    cases request
    rw [stage] at hshowed
    cases hshowed with
    | sent _ authorized => exact .refused kind authorized
  | again step task stage =>
    rw [htask] at task
    cases task
    rw [stage] at hshowed
    cases hshowed with
    | ahead kind => exact .ahead kind
    | refused kind authorized => exact .refused kind authorized

theorem Hears.showed {r : Http.Request} {sent : List Http.Request}
    {outcome : SingleFlight.Outcome} (h : Hears c n e occasion g outcome)
    (htask : c.tasks[n]? = some t) (hr : t.request = .ok r) (hshowed : Showed r t.stage sent) :
    Showed r (.waiting occasion g false) sent := by
  cases h with
  | atOnce asks answered => exact asks.showed htask hr hshowed false
  | landed event step task stage =>
    rw [htask] at task
    cases task
    rw [stage] at hshowed
    exact hshowed

/-- Only a task with a request asks. -/
theorem Asks.request (h : Asks c n e occasion g) (htask : c.tasks[n]? = some t)
    (hkept : Kept t (c.file n)) : ∃ r, t.request = .ok r := by
  cases hr : t.request with
  | ok r => exact ⟨r, rfl⟩
  | error error =>
    obtain ⟨t', htask', hstage | ⟨-, r, hr', -⟩⟩ := h.stage_cases
    · rw [htask] at htask'
      cases htask'
      rcases (hkept.unbuilt error hr).2 with h' | h' <;> rw [h'] at hstage <;> cases hstage
    · rw [htask] at htask'
      cases htask'
      rw [hr] at hr'
      cases hr'

/-- A task that asks and has to wait is kept as one that waits. -/
theorem Kept.waiting (hkept : Kept t (c.file n)) (htask : c.tasks[n]? = some t)
    (concerns : Concerns c n t e) (asks : Asks c n e occasion g) (superseded : Bool) :
    Kept { t with stage := .waiting occasion g superseded }
      (((c.noting e).file n).come (.waiting occasion g superseded)) := by
  have hheard := hkept.heard concerns
  obtain ⟨r, hr⟩ := asks.request htask hkept
  rw [file_noting] at hheard ⊢
  refine ⟨fun r' hr' => ?_, fun error herror => ?_, ?_, fun _ => ?_⟩
  · exact asks.showed htask hr' (hkept.showed r' hr') superseded
  · rw [show t.request = .error error from herror] at hr
    cases hr
  · exact congrArg List.length hheard
  · exact hkept.outcomes concerns.live

/-- A task that sends is kept as one that waits for the reply. -/
theorem Kept.sends {r signed : Http.Request} {stage : Stage} {id : Nat}
    (hkept : Kept t (c.file n)) (concerns : Concerns c n t e) (hr : t.request = .ok r)
    (hawaits : stage.awaitsReply = true)
    (hshowed : Showed r stage ((c.file n).sent ++ [signed])) :
    Kept { t with stage } ((((c.noting e).file n).come stage).send id signed) := by
  have hheard := hkept.heard concerns
  rw [file_noting] at hheard ⊢
  refine ⟨fun r' hr' => ?_, fun error herror => ?_, ?_, fun _ => ?_⟩
  · rw [show t.request = .ok r' from hr'] at hr
    cases hr
    exact hshowed
  · rw [show t.request = .error error from herror] at hr
    cases hr
  · show (((c.file n).hear e.reply?).awaited ++ [id]).length = _
    rw [hheard, hawaits]
    rfl
  · exact hkept.outcomes concerns.live

/-- **Step.**  The file of a task that acts agrees with the task. -/
theorem Acted.kept (h : Acted c e n t c') (htask : c.tasks[n]? = some t)
    (hkept : Kept t (c.file n)) (concerns : Concerns c n t e) :
    ∃ stage, (c'.file n).task = some { t with stage } ∧ Kept { t with stage } (c'.file n) := by
  have hnoted : ((c.noting e).file n).task = some t := by rw [file_noting]; exact htask
  have hcome : ∀ stage, (((c.noting e).file n).come stage).task = some { t with stage } :=
    fun stage => by
      show Option.map _ ((c.noting e).file n).task = _
      rw [hnoted]
      rfl
  cases h with
  | @sendsFirst r signed used request due shown authorized =>
    rw [file_transmit, if_pos rfl, file_setStage, if_pos rfl]
    obtain ⟨hsent, hkind⟩ := (hkept.showed r request).of_due due
    refine ⟨_, hcome _, hkept.sends concerns request rfl ?_⟩
    rw [hsent]
    exact .sent hkind authorized
  | @sendsAgain r signed g fresh request hears authorized =>
    rw [file_transmit, if_pos rfl, file_setStage, if_pos rfl]
    refine ⟨_, hcome _, hkept.sends concerns request rfl ?_⟩
    have hshowed := hears.showed htask request (hkept.showed r request)
    generalize (c.file n).sent = sent at hshowed ⊢
    cases hshowed with
    | refused kind first => exact .resent kind first authorized
  | joins asks under =>
    rw [file_setStage, if_pos rfl, file_withDesk]
    exact ⟨_, hcome _, hkept.waiting htask concerns asks _⟩
  | launches asks idle state now =>
    rw [file_enable, file_setStage, if_pos rfl, file_withDesk]
    exact ⟨_, hcome _, hkept.waiting htask concerns asks _⟩
  | ends ended =>
    rw [ended.file, if_pos rfl]
    refine ⟨.done, hcome _, ?_⟩
    have hheard := hkept.heard concerns
    rw [file_noting] at hheard ⊢
    exact ⟨fun r hr => .done (hkept.showed r hr),
      fun error herror => ⟨(hkept.unbuilt error herror).1, Or.inr rfl⟩,
      congrArg List.length hheard, fun hne => absurd rfl hne⟩

end own

/-! ### Runs -/

section runs

variable {c : Client}

theorem Ledger.new (options : Options) (store : Store) (now : Time.Instant) :
    (Client.new options store now).Ledger where
  desk := sound_new options store now
  posted := ⟨List.nodup_nil, fun _ hp => by cases hp⟩
  kept n t ht := by cases ht
  vacant n _ := rfl
  calls := rfl
  answers id reply hmem := by cases hmem

/-- Nothing that happens makes a client answer itself. -/
theorem Happened.answers {e : Event} {c' : Client} (h : Happened c e c')
    (hc : ∀ id reply, .answer id reply ∉ c.ready) (id : Nat) (reply : Reply) :
    .answer id reply ∉ c'.ready := by
  have hnoting : .answer id reply ∉ (c.noting e).ready := fun hmem =>
    hc id reply (noting_ready_subset c e _ hmem)
  cases h with
  | idle beside => rw [beside.ready]; exact hc id reply
  | ignored quiet noReply nobody => exact hnoting
  | spawned purpose request => simpa [spawn, enable] using hc id reply
  | aborted n => exact hc id reply
  | acted task concerns quiet acted =>
    cases acted with
    | sendsFirst request due shown authorized => exact hnoting
    | sendsAgain request hears authorized => exact hnoting
    | joins asks under => exact hnoting
    | launches asks idle state now =>
      simp only [enable, List.mem_append, List.mem_singleton, reduceCtorEq, or_false]
      exact hnoting
    | ends ended =>
      obtain ⟨hbeside⟩ := ended
      simp only [finish, setStage, hbeside.ready]
      exact hnoting
  | departs event step request => exact hnoting
  | @lands g result calling =>
    unfold settleFlight
    rcases (c.noting e).desk.settle g result with ⟨_ | ⟨waiters, outcome⟩, f⟩
    · exact hnoting
    · simp only [enable, List.mem_append, List.mem_map, reduceCtorEq, and_false, exists_false,
        or_false]
      exact hnoting

/-- The numbers of requests stay in order. -/
theorem Happened.posted {e : Event} {c' : Client} (h : Happened c e c') (hc : c.Posted) :
    c'.Posted := by
  have hnoting := hc.noting e
  cases h with
  | idle beside => exact hc.congr beside.sent beside.awaiting
  | ignored quiet noReply nobody => exact hnoting
  | spawned purpose request => exact hc.congr rfl rfl
  | aborted n => exact hc.of_sublist rfl List.filter_sublist
  | acted task concerns quiet acted =>
    cases acted with
    | sendsFirst request due shown authorized => exact (hnoting.setStage _ _).transmit _ _
    | sendsAgain request hears authorized => exact (hnoting.setStage _ _).transmit _ _
    | joins asks under => exact hnoting.congr rfl rfl
    | launches asks idle state now => exact hnoting.congr rfl rfl
    | ends ended =>
      obtain ⟨hbeside⟩ := ended
      exact hnoting.congr hbeside.sent hbeside.awaiting
  | departs event step request => exact hnoting.transmit _ _
  | @lands g result calling =>
    unfold settleFlight
    rcases (c.noting e).desk.settle g result with ⟨_ | ⟨waiters, outcome⟩, f⟩
    · exact hnoting.congr rfl rfl
    · exact hnoting.congr rfl rfl

/-- There is one call for each flight, and none without. -/
theorem Happened.calls {e : Event} {c' : Client} (h : Happened c e c') (hc : c.Ledger) :
    c'.calls = (c'.desk.flight.map (·.generation)).toList := by
  have hquiet : c.calling? e = none →
      (c.noting e).calls = ((c.noting e).desk.flight.map (·.generation)).toList := fun hquiet => by
    rw [calls_noting_of_none hc.posted.keys hquiet, hc.calls, noting_desk]
  -- the flight that an event concerns is the one under way
  have hcalling : ∀ {g}, c.calling? e = some g →
      (c.noting e).calls = [] ∧ ∃ flight, c.desk.flight = some flight ∧ flight.generation = g :=
    fun {g} hcalling => by
      obtain ⟨hbefore, hafter⟩ := calls_noting_of_some hc.posted.keys hcalling hc.length_calls_le
      refine ⟨hafter, hc.flight_of_mem ?_⟩
      rw [hbefore]
      exact List.mem_singleton_self g
  cases h with
  | idle beside =>
    rw [beside.flight, ← hc.calls]
    simp only [Client.calls, boarding, beside.ready, beside.awaiting]
  | ignored quiet noReply nobody => exact hquiet quiet
  | spawned purpose request =>
    show _ = (c.desk.flight.map (·.generation)).toList
    rw [← hc.calls]
    simp [Client.calls, boarding, spawn, enable, Step.launched?]
  | aborted n =>
    rw [calls_abort, hc.calls]
    rfl
  | acted task concerns quiet acted =>
    have hnoting := hquiet quiet
    cases acted with
    | sendsFirst request due shown authorized =>
      rw [calls_transmit]
      simp only [Owner.flight?, Option.toList_none, List.append_nil]
      exact hnoting
    | sendsAgain request hears authorized =>
      rw [calls_transmit]
      simp only [Owner.flight?, Option.toList_none, List.append_nil]
      exact hnoting
    | joins asks under =>
      rw [noting_desk, under] at hnoting
      exact hnoting
    | @launches occasion g current asks idle state now =>
      rw [noting_desk, idle] at hnoting
      obtain ⟨hready, hawaiting⟩ := List.append_eq_nil_iff.mp hnoting
      rw [boarding] at hready
      simp only [Client.calls, boarding, enable, setStage, List.filterMap_append, hready, hawaiting]
      rfl
    | ends ended =>
      obtain ⟨hbeside⟩ := ended
      simp only [Client.calls, boarding, finish, setStage, hbeside.ready, hbeside.awaiting,
        hbeside.flight]
      exact hnoting
  | @departs place g current r event step request =>
    obtain ⟨hnil, flight, hflight, hg⟩ := hcalling (g := g) (by
      rw [event]
      simp [calling?, step, Step.launched?])
    rw [calls_transmit, hnil]
    show [g] = ((c.noting e).desk.flight.map (·.generation)).toList
    rw [noting_desk, hflight, ← hg]
    rfl
  | @lands g result calling =>
    obtain ⟨hnil, flight, hflight, rfl⟩ := hcalling calling
    obtain ⟨outcome, s, hsettle, -⟩ := SingleFlight.settle_spec hc.desk hflight result
    unfold settleFlight
    rw [noting_desk, hsettle]
    obtain ⟨hready, hawaiting⟩ := List.append_eq_nil_iff.mp hnil
    rw [boarding] at hready
    simp [Client.calls, boarding, enable, hready, hawaiting, Step.launched?]

/-- **Step.**  The books of a client agree after every event. -/
theorem Ledger.step (h : c.Ledger) (e : Event) : (c.step e).Ledger := by
  have hhappened := h.happened e
  refine ⟨((step_spec h.desk e).moved h.desk).sound h.desk, hhappened.posted h.posted,
    fun n t ht => ?_, fun n hn => ?_, hhappened.calls h, hhappened.answers h.answers⟩
  · cases fate_spec h e n with
    | same hfile =>
      rw [hfile]
      exact h.kept n t ((congrArg File.task hfile).symm.trans ht)
    | spawned stage vacant hfile =>
      rw [hfile]
      cases (congrArg File.task hfile).symm.trans ht
      exact ⟨fun r hr => by rw [stage]; exact .starting, fun error _ => ⟨rfl, Or.inl stage⟩,
        by rw [stage]; rfl, fun _ => rfl⟩
    | aborted hfile =>
      rw [hfile]
      obtain ⟨t₀, ht₀, rfl⟩ := Option.map_eq_some_iff.mp ((congrArg File.task hfile).symm.trans ht)
      have hkept := h.kept n t₀ ht₀
      exact ⟨fun r hr => .done (hkept.showed r hr),
        fun error herror => ⟨(hkept.unbuilt error herror).1, Or.inr rfl⟩, rfl,
        fun hne => absurd rfl hne⟩
    | acted task concerns acted =>
      obtain ⟨t', ht', hkept⟩ := acted.kept task (h.kept n _ task) concerns
      cases ht'.symm.trans ht
      exact hkept
  · have htask : ((c.step e).file n).task = none := List.getElem?_eq_none_iff.mpr hn
    cases fate_spec h e n with
    | same hfile =>
      rw [hfile] at htask ⊢
      exact h.vacant n (List.getElem?_eq_none_iff.mp htask)
    | spawned stage vacant hfile =>
      rw [hfile] at htask
      cases htask
    | aborted hfile =>
      rw [hfile] at htask ⊢
      have hvacant := h.vacant n (List.getElem?_eq_none_iff.mp (Option.map_eq_none_iff.mp htask))
      rw [hvacant]
      rfl
    | acted task concerns acted =>
      obtain ⟨t', ht', -⟩ := acted.kept task (h.kept n _ task) concerns
      rw [ht'] at htask
      cases htask

/-- **Run.**  The books of a client agree at all times. -/
theorem Ledger.after (h : c.Ledger) (es : List Event) : (c.after es).Ledger := by
  induction es generalizing c with
  | nil => exact h
  | cons e es ih => exact ih (h.step e)

/-- **Step.**  A task stays what it is but for its stage. -/
theorem task_step (h : c.Ledger) (e : Event) {n : Nat} {t : Task} (htask : c.tasks[n]? = some t) :
    ∃ stage, (c.step e).tasks[n]? = some { t with stage } := by
  cases fate_spec h e n with
  | same hfile => exact ⟨t.stage, (congrArg File.task hfile).trans htask⟩
  | spawned stage vacant hfile =>
    rw [vacant] at htask
    cases htask
  | aborted hfile =>
    refine ⟨.done, (congrArg File.task hfile).trans ?_⟩
    show Option.map _ c.tasks[n]? = _
    rw [htask]
    rfl
  | acted task concerns acted =>
    cases htask.symm.trans task
    obtain ⟨stage, ht, -⟩ := acted.kept task (h.kept n t task) concerns
    exact ⟨stage, ht⟩

/-- **Run.**  A task stays what it is but for its stage. -/
theorem task_after (h : c.Ledger) (es : List Event) {n : Nat} {t : Task}
    (htask : c.tasks[n]? = some t) : ∃ stage, (c.after es).tasks[n]? = some { t with stage } := by
  induction es generalizing c t with
  | nil => exact ⟨t.stage, htask⟩
  | cons e es ih =>
    obtain ⟨stage, hstep⟩ := task_step h e htask
    obtain ⟨stage', hlater⟩ := ih (h.step e) hstep
    exact ⟨stage', hlater⟩

/-- The stage to which a task comes in an event, from what it was before. -/
inductive Came (c : Client) (e : Event) (n : Nat) : Option Task → Stage → Prop where
  | starts : Came c e n none .starting
  | stays {t : Task} : Came c e n (some t) t.stage
  | waits {t : Task} {occasion : Occasion} {g : Generation} {superseded : Bool}
      (asks : Asks c n e occasion g) : Came c e n (some t) (.waiting occasion g superseded)
  | sends {t : Task} {used : Option Snapshot}
      (due : t.stage = .starting ∨ ∃ g superseded, t.stage = .waiting .ahead g superseded) :
      Came c e n (some t) (.sent used)
  | sendsAgain {t : Task} : Came c e n (some t) .resent
  | ends {t : Task} : Came c e n (some t) .done

/-- **Step.**  A task comes to one of these stages, or stays where it is. -/
theorem came_spec (h : c.Ledger) (e : Event) {n : Nat} {t : Task}
    (ht : (c.step e).tasks[n]? = some t) : Came c e n c.tasks[n]? t.stage := by
  have hfate := fate_spec h e n
  generalize c.step e = c' at ht hfate
  cases hfate with
  | same hfile =>
    rw [show c.tasks[n]? = some t from (congrArg File.task hfile).symm.trans ht]
    exact .stays
  | spawned stage vacant hfile =>
    cases (congrArg File.task hfile).symm.trans ht
    rw [vacant, stage]
    exact .starts
  | aborted hfile =>
    obtain ⟨t₀, ht₀, rfl⟩ := Option.map_eq_some_iff.mp ((congrArg File.task hfile).symm.trans ht)
    rw [show c.tasks[n]? = some t₀ from ht₀]
    exact .ends
  | @acted t₀ task concerns acted =>
    rw [task]
    have hcome : ∀ stage : Stage, (c'.file n).task = (((c.noting e).file n).come stage).task →
        t.stage = stage := fun stage hfile => by
      have hnoted : ((c.noting e).file n).task = some t₀ := by rw [file_noting]; exact task
      cases (hfile.trans (congrArg (Option.map _) hnoted)).symm.trans ht
      rfl
    cases acted with
    | @sendsFirst r signed used request due shown authorized =>
      rw [hcome (.sent used) (by rw [file_transmit, if_pos rfl, file_setStage, if_pos rfl]; rfl)]
      exact .sends (due.imp And.left id)
    | sendsAgain request hears authorized =>
      rw [hcome .resent (by rw [file_transmit, if_pos rfl, file_setStage, if_pos rfl]; rfl)]
      exact .sendsAgain
    | joins asks under =>
      rw [hcome _ (by rw [file_setStage, if_pos rfl]; rfl)]
      exact .waits asks
    | launches asks idle state now =>
      rw [hcome _ (by rw [file_enable, file_setStage, if_pos rfl]; rfl)]
      exact .waits asks
    | ends ended =>
      rw [hcome .done (by rw [ended.file, if_pos rfl]; rfl)]
      exact .ends

/-- Nothing changes the settings of a client. -/
theorem Happened.options {e : Event} {c' : Client} (h : Happened c e c') :
    c'.options = c.options := by
  have hnoting := noting_options c e
  cases h with
  | idle beside => exact beside.options
  | ignored quiet noReply nobody => exact hnoting
  | spawned purpose request => rfl
  | aborted n => rfl
  | acted task concerns quiet acted =>
    cases acted with
    | sendsFirst request due shown authorized => exact hnoting
    | sendsAgain request hears authorized => exact hnoting
    | joins asks under => exact hnoting
    | launches asks idle state now => exact hnoting
    | ends ended =>
      obtain ⟨hbeside⟩ := ended
      exact hbeside.options.trans hnoting
  | departs event step request => exact hnoting
  | @lands g result calling =>
    unfold settleFlight
    rcases (c.noting e).desk.settle g result with ⟨_ | ⟨waiters, outcome⟩, f⟩ <;> exact hnoting

theorem options_after (h : c.Ledger) (es : List Event) : (c.after es).options = c.options := by
  induction es generalizing c with
  | nil => rfl
  | cons e es ih => exact (ih (h.step e)).trans (h.happened e).options

end runs

end Client

end SessionKeeper
