import SessionKeeper.Proofs.Client.Course

/-! # A batch stays on course

Whatever is delivered next, a batch of refused requests stays on course
(`Course.step`): each kind of delivery comes to one of the things that the module
before has dealt with, or changes nothing.  So a batch is on course after any run of
deliveries (`Course.after`), and when nothing is left to be delivered all its tasks have
ended (`Course.ended`).  Until then something can be (`Ledger.finished_of_still`).

Core Lean 4 only; no Mathlib. -/

namespace SessionKeeper

namespace Client

/-! ### Deliveries to a task -/

section deliveries

variable {b : Batch} {c₀ c : Client} {landed : Bool} {n place id : Nat}

/-- A task begins, and sends its request with the credentials of the batch. -/
theorem Course.begins (h : Course b c₀ c landed) (hfit : b.Fit c₀) (member : n ∈ b.members)
    (hstep : c.ready[place]? = some (.start n)) (current : c.session.current = some b.used) :
    Course b c₀ (c.step (.go place)) landed := by
  have hquiet : c.calling? (.go place) = none := by simp [calling?, hstep, Step.launched?]
  obtain ⟨htask, hkind, leg⟩ := h.legs n member
  rename_i r stage
  by_cases hstage : stage = .starting
  · subst hstage
    obtain ⟨hsent, houtcomes⟩ := leg.of_starting
    have hauthorized := authorize_of_isFieldValue (r := r) hfit.authorization
    rw [step_start hstep htask, begin_of_current hkind
      (by rw [noting_options, h.options]; exact hfit.window) (by rw [noting_session]; exact current)
      hauthorized]
    refine h.sends member hquiet htask hkind rfl ?_
    rw [show c.sentBy (.task n) = [] from hsent, show c.outcomesOf n = [] from houtcomes]
    exact .sent hauthorized
  · -- it has begun already
    have hignored : c.step (.go place) = c.noting (.go place) := by
      have htask' : c.tasks[n]? = some ⟨.exchange, .ok r, stage⟩ := htask
      simp only [step, hstep, perform, htask']
      cases stage with
      | starting => exact absurd rfl hstage
      | _ => rfl
    rw [hignored]
    exact h.noting hquiet

/-- A task is woken.  It goes on with what the flight came to, or asks again. -/
theorem Course.wakesUp (h : Course b c₀ c landed) (hfit : b.Fit c₀) (hc : c.Ledger)
    (member : n ∈ b.members) {outcome : SingleFlight.Outcome}
    (hstep : c.ready[place]? = some (.wake n outcome)) (hqueued : (c.step (.go place)).Queued) :
    Course b c₀ (c.step (.go place)) landed := by
  have hquiet : c.calling? (.go place) = none := by simp [calling?, hstep, Step.launched?]
  obtain ⟨htask, hkind, leg⟩ := h.legs n member
  rename_i r stage
  have hignored : stage.waits = false → c.step (.go place) = c.noting (.go place) := by
    intro hwaits
    have htask' : c.tasks[n]? = some ⟨.exchange, .ok r, stage⟩ := htask
    simp only [step, hstep, perform, task?, htask']
    cases stage with
    | waiting occasion g superseded => cases hwaits
    | _ => rfl
  cases stage with
  | waiting occasion g superseded =>
    obtain ⟨rfl, rfl, houtcomes, first, hsent, hauthorized⟩ := leg.of_waiting
    have turn : Turn b c (.go place) n r first _ :=
      ⟨member, hquiet, htask, hkind, hsent, houtcomes, hauthorized⟩
    have hwoken := step_wake hstep htask
    rw [hwoken] at hqueued ⊢
    cases superseded with
    | true => exact h.asks hfit hc turn hqueued
    | false =>
      obtain ⟨rfl, rfl⟩ := h.wakes n member _ outcome htask rfl (List.mem_of_getElem? hstep)
      cases hresult : b.result c₀ with
      | ok new => exact h.resends turn hresult (hfit.fresh new hresult)
      | error error => exact h.expels turn hresult rfl
  | _ =>
    rw [hignored rfl]
    exact h.noting hquiet

/-- What a task has sent first is refused. -/
theorem Course.denies (h : Course b c₀ c landed) (hfit : b.Fit c₀) (hc : c.Ledger)
    (member : n ∈ b.members) (hawaited : c.awaiting.lookup id = some (.task n)) {t : Task}
    (htask : c.tasks[n]? = some t) {used : Option Snapshot} (hstage : t.stage = .sent used)
    {response : Http.Response} (hstatus : response.status = 401)
    (hqueued : (c.step (.reply id (.response response))).Queued) :
    Course b c₀ (c.step (.reply id (.response response))) landed := by
  have hquiet : c.calling? (.reply id (.response response)) = none := by
    simp [calling?, hawaited, Owner.flight?]
  obtain ⟨htask', hkind, leg⟩ := h.legs n member
  cases htask'.symm.trans htask
  rename_i r stage
  cases show stage = .sent used from hstage
  obtain ⟨rfl, houtcomes, first, hsent, hauthorized⟩ := leg.of_sent
  have turn : Turn b c (.reply id (.response response)) n r first _ :=
    ⟨member, hquiet, htask, hkind, hsent, houtcomes, hauthorized⟩
  rw [step_reply (by simp) hawaited htask, receive_of_denied hkind rfl hstatus] at hqueued ⊢
  exact h.asks hfit hc turn hqueued

/-- What a task has sent again succeeds. -/
theorem Course.answers (h : Course b c₀ c landed) (member : n ∈ b.members)
    (hawaited : c.awaiting.lookup id = some (.task n)) {t : Task} (htask : c.tasks[n]? = some t)
    (hstage : t.stage = .resent) (hsuccess : (b.page n).isSuccess = true) :
    Course b c₀ (c.step (.reply id (.response (b.page n)))) landed := by
  have hquiet : c.calling? (.reply id (.response (b.page n))) = none := by
    simp [calling?, hawaited, Owner.flight?]
  obtain ⟨htask', hkind, leg⟩ := h.legs n member
  cases htask'.symm.trans htask
  rename_i r stage
  cases show stage = .resent from hstage
  obtain ⟨⟨new, hnew⟩, leg'⟩ := leg.answer
  rw [step_reply (by simp) hawaited htask, receive_of_success rfl rfl hsuccess]
  refine h.ends htask hkind (finish_ended _ n _) (noting_failureNotices c _) ?_
    (fun error herror => by cases hnew.symm.trans herror) leg'
  exact (h.phase.noting hquiet).congr rfl rfl rfl (fun _ _ hmem => hmem) rfl

end deliveries

/-! ### Deliveries to a flight -/

theorem flightResult_congr {c d : Client} (h : c.options = d.options) (reply : Reply) :
    c.flightResult reply = d.flightResult reply := by
  rw [flightResult, flightResult, h]

section deliveries

variable {b : Batch} {c₀ c : Client} {landed : Bool} {place id : Nat} {g : Generation}

/-- A flight begins, and sends its request if there is one to send. -/
theorem Course.departs (h : Course b c₀ c landed) (hfit : b.Fit c₀) (hc : c.Ledger)
    {current : Credentials} (hstep : c.ready[place]? = some (.launch g current)) :
    ∃ landed, Course b c₀ (c.step (.go place)) landed := by
  have hcalling : c.calling? (.go place) = some g := by simp [calling?, hstep, Step.launched?]
  have hboards : g ∈ c.boarding :=
    List.mem_filterMap.mpr ⟨_, List.mem_of_getElem? hstep, rfl⟩
  obtain ⟨flight, under, hg⟩ := hc.flight_of_mem (List.mem_append_left _ hboards)
  have hcalled := (calls_noting_of_some hc.posted.keys hcalling hc.length_calls_le).2
  have hboarded : (c.noting (.go place)).boarding = [] := (List.append_eq_nil_iff.mp hcalled).1
  cases h.phase with
  | before untouched state boarding =>
    rw [boarding] at hboards
    cases hboards
  | renewed returned state current flight' => cases under.symm.trans flight'
  | lost returned state flight' => cases under.symm.trans flight'
  | during untouched state flight' launching departed =>
    cases under.symm.trans flight'
    subst hg
    have hcurrent := launching _ _ (List.mem_of_getElem? hstep)
    have hdepartures : c.departures = c₀.departures := by
      rcases departed with ⟨-, heq⟩ | ⟨hnone, -⟩
      · exact heq
      · rw [hnone] at hboards
        cases hboards
    rw [step_launch hstep, h.options, hcurrent]
    cases hrequest : c₀.options.endpoint.request b.used.credentials with
    | ok r =>
      refine ⟨false, (noting_options c _).trans h.options,
        (noting_failureNotices c _).trans h.notices,
        ?_, fun n hn => ?_, h.told, fun n hn t outcome ht hstage hmem => ?_⟩
      · refine .during ⟨untouched.current, untouched.store, untouched.prompted, untouched.prompts⟩
          state under (fun g current hmem => launching g current (noting_ready_subset c _ _ hmem))
          (Or.inr ⟨hboarded, ?_, r, hrequest⟩)
        rw [departures_transmit, ← hdepartures]
        rfl
      · rw [file_transmit, if_neg (by simp), file_noting]
        exact (h.legs n hn).hear _
      · exact h.wakes n hn t outcome ht hstage (noting_ready_subset c _ _ hmem)
    | error error =>
      -- the flight is over before it has begun
      have hresult : b.result c₀ = .error error := by simp only [Batch.result, hrequest]
      have hlands := h.lands (e := .go place) hfit hc untouched state under (Or.inl hdepartures)
        fun new hnew => by cases hnew.symm.trans hresult
      rw [hresult] at hlands
      exact ⟨true, hlands⟩

/-- The reply to the flight arrives that replaces the credentials of the batch. -/
theorem Course.renews (h : Course b c₀ c landed) (hfit : b.Fit c₀) (hc : c.Ledger)
    (hawaited : c.awaiting.lookup id = some (.flight b.used.generation)) :
    ∃ landed, Course b c₀ (c.step (.reply id b.renewal)) landed := by
  obtain ⟨hcalls, hboarding⟩ := hc.boarding_of_awaited hawaited
  obtain ⟨flight, under, hg⟩ := hc.flight_of_mem hcalls
  cases h.phase with
  | before untouched state =>
    -- a flight of this generation would be under way
    have hawaits := hc.desk.awaits flight under
    rw [hg] at hawaits
    rcases hawaits.state_cases with hr | hout | ⟨newer, hin, hlt⟩
    · cases state.symm.trans hr
    · cases state.symm.trans hout
    · cases state.symm.trans hin
      exact absurd hlt (Nat.lt_irrefl _)
  | renewed returned state current flight' => cases under.symm.trans flight'
  | lost returned state flight' => cases under.symm.trans flight'
  | during untouched state flight' launching departed =>
    rcases departed with ⟨hboards, -⟩ | ⟨-, hdepartures, r, hrequest⟩
    · exact absurd hboarding hboards
    · have hresult : b.result c₀ = c.flightResult b.renewal := by
        rw [flightResult_congr h.options]
        simp only [Batch.result, hrequest]
      rw [step_flightReply hawaited, ← hresult]
      exact ⟨true, h.lands hfit hc untouched state flight' (Or.inr hdepartures)
        fun _ _ => hdepartures⟩

/-- The reply to a flight of a former session arrives. -/
theorem Course.overtaken (h : Course b c₀ c landed) (hc : c.Ledger) (hq : c.Queued)
    {reply : Reply} (hawaited : c.awaiting.lookup id = some (.flight g))
    (hother : g ≠ b.used.generation) : Course b c₀ (c.step (.reply id reply)) landed := by
  obtain ⟨flight, under, rfl⟩ := hc.flight_of_mem (hc.boarding_of_awaited hawaited).1
  rw [step_flightReply hawaited]
  cases h.phase with
  | before untouched state boarding departures =>
    exact h.passes (e := .reply id reply) hc hq under untouched state boarding departures _
  | during untouched state flight' =>
    cases under.symm.trans flight'
    exact absurd rfl hother
  | renewed returned state current flight' => cases under.symm.trans flight'
  | lost returned state flight' => cases under.symm.trans flight'

/-- The clock is nothing to a batch. -/
theorem Course.clock (h : Course b c₀ c landed) (now : Time.Instant) :
    Course b c₀ (c.step (.clock now)) landed :=
  ⟨h.options, h.notices, h.phase.congr rfl rfl rfl (fun _ _ hmem => hmem) rfl, h.legs, h.told,
    h.wakes⟩

end deliveries

/-! ### Runs -/

section runs

variable {b : Batch} {c₀ c : Client} {landed : Bool}

/-- **Step.**  A batch stays on course, whatever is delivered. -/
theorem Course.step (h : Course b c₀ c landed) (hfit : b.Fit c₀) (hc : c.Ledger) (hq : c.Queued)
    {e : Event} (hdelivers : Delivers b c e) : ∃ landed, Course b c₀ (c.step e) landed := by
  have hqueued := hq.step hc e
  cases hdelivers with
  | begins member step current => exact ⟨landed, h.begins hfit member step current⟩
  | departs step => exact h.departs hfit hc step
  | wakes member step => exact ⟨landed, h.wakesUp hfit hc member step hqueued⟩
  | denies member awaited task stage status =>
    exact ⟨landed, h.denies hfit hc member awaited task stage status hqueued⟩
  | answers member awaited task stage success =>
    exact ⟨landed, h.answers member awaited task stage success⟩
  | renews awaited => exact h.renews hfit hc awaited
  | overtaken awaited other => exact ⟨landed, h.overtaken hc hq awaited other⟩
  | clock now => exact ⟨landed, h.clock now⟩

/-- **Run.**  A batch is on course after any deliveries. -/
theorem Course.after (h : Course b c₀ c landed) (hfit : b.Fit c₀) (hc : c.Ledger) (hq : c.Queued)
    {es : List Event} (halong : Along b c es) : ∃ landed, Course b c₀ (c.after es) landed := by
  induction halong generalizing landed with
  | nil c => exact ⟨landed, h⟩
  | cons first rest ih =>
    obtain ⟨landed', hstep⟩ := h.step hfit hc hq first
    exact ih hstep (hc.step _) (hq.step hc _)

/-- **When nothing is left to be delivered, every task has ended.** -/
theorem Course.ended (h : Course b c₀ c landed) (hc : c.Ledger) (hq : c.Queued)
    (hfinished : Finished b c) {n : Nat} (hn : n ∈ b.members) :
    ∃ r, c.tasks[n]? = some ⟨.exchange, .ok r, .done⟩ ∧
      Leg b (b.result c₀) n r landed .done (c.sentBy (.task n)) (c.outcomesOf n) := by
  obtain ⟨htask, hkind, leg⟩ := h.legs n hn
  rename_i r stage
  have hkept := hc.kept n _ htask
  have hplaced := hq.placed n _ htask
  have hawaited : (c.file n).awaited = [] := hfinished.replies n hn
  have hidle : c.desk.flight = none := by
    have hcalls := hc.calls
    rw [hfinished.calls] at hcalls
    cases hflight : c.desk.flight with
    | none => rfl
    | some flight =>
      rw [hflight] at hcalls
      cases hcalls
  cases stage with
  | starting => exact absurd (hplaced.starts rfl) (hfinished.starts n hn)
  | waiting occasion g superseded =>
    -- without a flight to wait for, it would be about to be woken
    have hturns := hplaced.turns (by simp)
    have hwoken := List.count_eq_zero.mpr (hfinished.wakes n hn)
    rw [turns, waiters, hidle, hwoken] at hturns
    cases hturns
  | sent used =>
    have hlength := hkept.awaited
    rw [hawaited] at hlength
    cases hlength
  | resent =>
    have hlength := hkept.awaited
    rw [hawaited] at hlength
    cases hlength
  | done => exact ⟨r, htask, leg⟩

/-- **A run that cannot go on has finished.**  As long as something is left to be
delivered, it can be: a task that is to be woken, a reply that is waited for, or a flight
that is to begin.

What is proved of batches is proved of finished runs.  By this they are just the runs that
were not broken off: no batch comes to a point where deliveries end and a task still waits. -/
theorem Ledger.finished_of_still (hc : c.Ledger)
    (hpage : ∀ n ∈ b.members, (b.page n).isSuccess = true)
    (hbegun : ∀ n ∈ b.members, .start n ∉ c.ready)
    (hstill : ∀ e, Delivers b c e → ∃ now, e = .clock now) : Finished b c where
  starts := hbegun
  wakes n hn hwoken := by
    obtain ⟨s, hs, hsome⟩ := List.mem_filterMap.mp hwoken
    obtain ⟨place, hplace⟩ := List.getElem?_of_mem hs
    cases s with
    | wake m outcome =>
      cases hsome
      obtain ⟨now, heq⟩ := hstill _ (.wakes hn hplace)
      cases heq
    | _ => cases hsome
  replies n hn := by
    refine List.eq_nil_iff_forall_not_mem.mpr fun id hid => ?_
    have hawaited := lookup_of_mem hc.posted.keys (mem_awaitedBy.mp hid)
    obtain ⟨t, r, htask, -, hawaits⟩ := hc.awaits id n hawaited
    cases hstage : t.stage with
    | sent used =>
      have hdenied : Delivers b c (.reply id (.response { status := 401 })) :=
        .denies hn hawaited htask hstage rfl
      obtain ⟨now, heq⟩ := hstill _ hdenied
      cases heq
    | resent =>
      obtain ⟨now, heq⟩ := hstill _ (.answers hn hawaited htask hstage (hpage n hn))
      cases heq
    | _ =>
      rw [hstage] at hawaits
      cases hawaits
  calls := by
    refine List.eq_nil_iff_forall_not_mem.mpr fun g hg => ?_
    rcases List.mem_append.mp hg with hboards | hflies
    · obtain ⟨s, hs, hsome⟩ := List.mem_filterMap.mp hboards
      obtain ⟨place, hplace⟩ := List.getElem?_of_mem hs
      cases s with
      | launch g' current =>
        obtain ⟨now, heq⟩ := hstill _ (.departs hplace)
        cases heq
      | _ => cases hsome
    · obtain ⟨⟨id, owner⟩, hp, howner⟩ := List.mem_filterMap.mp hflies
      cases owner with
      | task m => cases howner
      | flight g' =>
        have hawaited := lookup_of_mem hc.posted.keys hp
        by_cases hother : g' = b.used.generation
        · obtain ⟨now, heq⟩ := hstill _ (.renews (hother ▸ hawaited))
          cases heq
        · have hpasses : Delivers b c (.reply id .crash) := .overtaken hawaited hother
          obtain ⟨now, heq⟩ := hstill _ hpasses
          cases heq

end runs

end Client

end SessionKeeper
