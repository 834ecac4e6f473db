import SessionKeeper.Proofs.Refresh.Waiters

/-! # Every place on the list is answered once

A run is looked at from outside: which callers come to the list of those who
wait, and what is sent to whom.  Laid end to end, the callers that came are
those to whom something was sent, followed by those who still wait
(`seen_came`).  So nobody is left out or answered twice, and all are answered in
the order in which they came.

Nor does it matter who goes away meanwhile.  Two runs, one of which some of
those who wait have left, are the same to everybody else up to the moment at
which the flight lands (`Without`).

Core Lean 4 only; no Mathlib. -/

namespace SessionKeeper

open SingleFlight (Outcome Reply Flight Asked Landed)

namespace Traffic

/-! ### What is seen of a run -/

/-- The caller that begins to wait in an event, if one does. -/
def came (t : Traffic) : Event → List Nat
  | .run n => if !t.waits n && (t.run n).waits n then [n] else []
  | _ => []

/-- All that is seen of a run, event by event. -/
def seen {α : Type} (look : Traffic → Event → List α) (t : Traffic) : List Event → List α
  | [] => []
  | e :: es => look t e ++ (t.step e).seen look es

/-! ### Who came, and who was answered -/

/-- Whoever returns did not come to the list. -/
theorem waiters_finish {t : Traffic} (h : t.Attached) {n : Nat} (hturn : t.turn n ≠ .rest)
    (outcome : Outcome) : ((t.rested n).finish n outcome).waiters = t.waiters ++
      if !t.waits n && ((t.rested n).finish n outcome).waits n then [n] else [] := by
  obtain ⟨-, -, c, hc⟩ := h.not_listed hturn
  have hdone : ((t.rested n).finish n outcome).callers[n]? = some (.finished outcome) :=
    (getElem?_set_of_some hc n).trans (if_pos rfl)
  have hwaits : ((t.rested n).finish n outcome).waits n = false := waits_of_caller hdone
  rw [hwaits, Bool.and_false]
  exact (List.append_nil _).symm

/-- Whoever waits after its turn came to the end of the list. -/
theorem waiters_attach {t t' : Traffic} (h : t.Attached) {n : Nat} (hturn : t.turn n ≠ .rest)
    {refused : Generation} {superseded : Bool}
    (hcallers : t'.callers = t.callers.set n (.waiting refused superseded))
    (hwaiters : t'.waiters = t.waiters ++ [n]) :
    t'.waiters = t.waiters ++ if !t.waits n && t'.waits n then [n] else [] := by
  obtain ⟨-, hbefore, c, hc⟩ := h.not_listed hturn
  have hnow : t'.callers[n]? = some (.waiting refused superseded) := by
    rw [hcallers]
    exact (getElem?_set_of_some hc n).trans (if_pos rfl)
  have hafter : t'.waits n = true := waits_of_caller hnow
  rw [hbefore, hafter]
  exact hwaiters

theorem came_of_run {t t' : Traffic} (h : t.Attached) {n : Nat} (hran : Ran t n t') :
    t'.waiters = t.waiters ++ if !t.waits n && t'.waits n then [n] else [] := by
  cases hran with
  | rest turn =>
    have hsame : (t.rested n).waits n = t.waits n := rfl
    rw [hsame, Bool.not_and_self]
    exact (List.append_nil _).symm
  | finish turn => exact waiters_finish h (by rw [turn]; nofun) _
  | answer turn asked => exact waiters_finish h (by rw [turn]; nofun) _
  | join turn state under =>
    exact waiters_attach h (by rw [turn]; nofun) rfl (by rw [waiters_of_some under]; rfl)
  | launch turn idle state current =>
    exact waiters_attach h (by rw [turn]; nofun) rfl (by rw [waiters_of_none idle]; rfl)

theorem sent_of_settle {t t' : Traffic} {place : Nat} {result : Except CallError Credentials}
    {sent : List (Nat × Outcome)} (h : Settled t place result sent t') :
    t.waiters = sent.map (·.1) ++ t'.waiters := by
  cases h with
  | nothing none => rfl
  | @landed call flight outcome s call_eq under generation landed =>
    have hnone : waiters (flight.waiters.foldl (wake outcome)
        { t with calls := [], desk := ⟨s, none⟩ }) = [] :=
      waiters_of_none (by rw [wakeAll_desk])
    rw [hnone, waiters_of_some under]
    simp [Function.comp_def]

/-- **Step.**  Whoever is on the list, or comes to it, is answered or stays. -/
theorem waiters_step {t : Traffic} (hs : t.Sound) (h : t.Attached) (e : Event) :
    t.waiters ++ t.came e = (t.sent e).map (·.1) ++ (t.step e).waiters := by
  cases e with
  | run n => exact (came_of_run h (run_spec hs.desk n)).symm
  | settle place ending =>
    show t.waiters ++ [] = _
    rw [List.append_nil]
    exact sent_of_settle (settleAt_spec hs place ending.result)
  | cancel n =>
    have hwaiters : (t.cancel n).waiters = t.waiters := by simp only [waiters, cancel_desk]
    show t.waiters ++ [] = (t.cancel n).waiters
    rw [hwaiters, List.append_nil]
  | _ => exact List.append_nil _

/-- **Run.**  Whoever came to the list was answered, in order, or is still on
it. -/
theorem seen_came {t : Traffic} (hs : t.Sound) (h : t.Attached) (es : List Event) :
    t.waiters ++ t.seen came es = (t.seen sent es).map (·.1) ++ (t.after es).waiters := by
  induction es generalizing t with
  | nil => simp [seen]
  | cons e es ih =>
    rw [seen, seen, after_cons, List.map_append, List.append_assoc,
      ← ih (hs.step e) (h.step hs e), ← List.append_assoc, waiters_step hs h e,
      List.append_assoc]

/-- The last thing that was sent to `n`. -/
def LastSent (log : List (Nat × Outcome)) (n : Nat) (outcome : Outcome) : Prop :=
  ∃ earlier later, log = earlier ++ (n, outcome) :: later ∧ n ∉ later.map (·.1)

theorem LastSent.append {log more : List (Nat × Outcome)} {n : Nat} {outcome : Outcome}
    (h : LastSent log n outcome) (hn : n ∉ more.map (·.1)) : LastSent (log ++ more) n outcome := by
  obtain ⟨earlier, later, rfl, hlater⟩ := h
  refine ⟨earlier, later ++ more, by simp, fun hmem => ?_⟩
  rw [List.map_append] at hmem
  rcases List.mem_append.mp hmem with hmem | hmem
  · exact hlater hmem
  · exact hn hmem

/-- Whoever is on a list once is sent one thing by it. -/
theorem LastSent.of_mem (log : List (Nat × Outcome)) {ns : List Nat} (hnodup : ns.Nodup) {n : Nat}
    (hn : n ∈ ns) (outcome : Outcome) : LastSent (log ++ ns.map (·, outcome)) n outcome := by
  obtain ⟨before, behind, rfl⟩ := List.append_of_mem hn
  refine ⟨log ++ before.map (·, outcome), behind.map (·, outcome), by simp, ?_⟩
  have hrest := (List.nodup_append.mp hnodup).2.1
  simpa [Function.comp_def] using (List.nodup_cons.mp hrest).1

/-- Only those on the list are sent anything. -/
theorem sent_subset {t : Traffic} (hs : t.Sound) (e : Event) {n : Nat}
    (hn : n ∈ (t.sent e).map (·.1)) : n ∈ t.waiters := by
  cases e with
  | settle place ending =>
    rw [sent_of_settle (settleAt_spec hs place ending.result)]
    exact List.mem_append_left _ hn
  | _ => cases hn

/-- Whoever is not on the list any more was sent what it was woken with. -/
def Informed (t : Traffic) (log : List (Nat × Outcome)) : Prop :=
  ∀ n refused superseded outcome, t.callers[n]? = some (.woken refused superseded outcome) →
    n ∉ t.waiters ∧ LastSent log n outcome

/-- **Step.**  Whoever an event wakes is sent the outcome in the same event. -/
theorem Informed.step {t : Traffic} {log : List (Nat × Outcome)} (hs : t.Sound) (h : t.Attached)
    (hi : t.Informed log) (e : Event) : (t.step e).Informed (log ++ t.sent e) := by
  intro n refused superseded outcome hn
  -- whoever is on the list waits or is gone, and this one is neither
  have hawake : n ∉ (t.step e).waiters := fun hmem => by
    rcases (h.step hs e).waiting n hmem with hwaits | hgone
    · rw [waits_of_caller hn] at hwaits
      cases hwaits
    · rw [hgone] at hn
      cases hn
  refine ⟨hawake, ?_⟩
  cases fate_spec hs h e hn with
  | same caller =>
    -- it was off the list already, so nothing more was sent to it
    obtain ⟨hlisted, hlast⟩ := hi n refused superseded outcome caller
    exact hlast.append (mt (sent_subset hs e) hlisted)
  | woken caller under sent landed =>
    have hmem := h.listed n (waits_iff.mpr ⟨_, _, caller⟩)
    have hnodup := h.nodup
    rw [waiters_of_some under] at hmem hnodup
    show LastSent (log ++ t.sends _ _) n outcome
    rw [sent]
    exact .of_mem log hnodup hmem outcome

/-- **Run.**  Whoever was woken was sent the outcome that it was woken with. -/
theorem Informed.after {t : Traffic} {log : List (Nat × Outcome)} (hs : t.Sound) (h : t.Attached)
    (hi : t.Informed log) (es : List Event) : (t.after es).Informed (log ++ t.seen sent es) := by
  induction es generalizing t log with
  | nil => rwa [seen, List.append_nil]
  | cons e es ih =>
    rw [seen, ← List.append_assoc]
    exact ih (hs.step e) (h.step hs e) (hi.step hs h e)

/-! ### A landing -/

/-- Those who wait are woken in the order of the list. -/
theorem wakeAll_ready (outcome : Outcome) {ns : List Nat} (hnodup : ns.Nodup) (t : Traffic) :
    (ns.foldl (wake outcome) t).ready = t.ready ++ ns.filter t.waits := by
  -- along the list, the first of which is woken first
  induction ns generalizing t with
  | nil => simp
  | cons n ns ih =>
    obtain ⟨hn, hrest⟩ := List.nodup_cons.mp hnodup
    -- waking `n` does not change who else waits, and `n` does not come again
    have hsame : ns.filter (wake outcome t n).waits = ns.filter t.waits :=
      List.filter_congr fun m hm => waits_congr (by
        have hne : m ≠ n := fun heq => hn (heq ▸ hm)
        rw [wake_callers, if_neg hne])
    rw [List.foldl_cons, ih hrest, hsame, wake_ready, List.append_assoc, List.filter_cons]
    cases t.waits n <;> rfl

/-- What a call that ends does for those who wait. -/
theorem settle_wakes {t : Traffic} (hs : t.Sound) (h : t.Attached) (place : Nat) (ending : Ending)
    {call : Call} (hcall : t.calls[place]? = some call) :
    ∃ outcome, t.sent (.settle place ending) = t.waiters.map (·, outcome) ∧
      (t.step (.settle place ending)).desk.flight = none ∧
      (t.step (.settle place ending)).ready = t.ready ++ t.waiters.filter t.waits ∧
      ∀ (n : Nat) refused superseded, t.callers[n]? = some (.waiting refused superseded) →
        (t.step (.settle place ending)).callers[n]? = some (.woken refused superseded outcome) := by
  have hspec := settleAt_spec hs place ending.result
  show ∃ outcome, t.sends place ending.result = _ ∧
    (t.settleAt place ending.result).desk.flight = none ∧
    (t.settleAt place ending.result).ready = _ ∧ ∀ (n : Nat) refused superseded, _ →
      (t.settleAt place ending.result).callers[n]? = _
  revert hspec
  generalize t.sends place ending.result = sent
  generalize t.settleAt place ending.result = t'
  intro hspec
  cases hspec with
  | nothing none =>
    rw [none] at hcall
    cases hcall
  | @landed _ flight outcome s call_eq under generation landed =>
    have hnodup := h.nodup
    rw [waiters_of_some under] at hnodup ⊢
    refine ⟨outcome, rfl, by rw [wakeAll_desk], wakeAll_ready outcome hnodup _, ?_⟩
    intro n refused superseded hn
    have hmem := h.listed n (waits_iff.mpr ⟨_, _, hn⟩)
    rw [waiters_of_some under] at hmem
    rw [wakeAll_callers, if_pos hmem]
    show Option.map _ t.callers[n]? = _
    rw [hn]
    rfl

/-! ### Callers that go away -/

theorem cancel_callers_of_live {t : Traffic} {n : Nat} {c : Caller} (hc : t.callers[n]? = some c)
    (hlive : ∀ outcome, c ≠ .finished outcome) :
    (t.cancel n).callers = t.callers.set n .cancelled := by
  unfold cancel
  rw [hc]
  split
  · rename_i outcome heq
    exact absurd (Option.some.inj heq) (hlive outcome)
  · rfl

/-- `t'` is `t` without some of those who wait. -/
structure Without (ns : List Nat) (t t' : Traffic) : Prop where
  desk : t'.desk = t.desk
  calls : t'.calls = t.calls
  length : t'.callers.length = t.callers.length
  others : ∀ n, n ∉ ns → t'.callers[n]? = t.callers[n]?
  /-- They went away in `t'`; in `t` they still wait, or went away as well. -/
  gone : ∀ n ∈ ns, t'.callers[n]? = some .cancelled ∧
    (t.waits n = true ∨ t.callers[n]? = some .cancelled)

namespace Without

variable {ns : List Nat} {t t' : Traffic}

/-- Nothing happens to those who went away. -/
theorem rest (h : Without ns t t') (hs : t.Attached) {n : Nat} (hn : n ∈ ns) :
    t.turn n = .rest ∧ t'.turn n = .rest := by
  obtain ⟨hgone, hwaits⟩ := h.gone n hn
  refine ⟨?_, by rw [turn, hgone]⟩
  rcases hwaits with hwaits | hcancelled
  · exact hs.turn_of_waits hwaits
  · rw [turn, hcancelled]

/-- Both change in the same way, and only somebody else does. -/
theorem set (h : Without ns t t') {m : Nat} (hm : m ∉ ns) (c : Caller) {u u' : Traffic}
    (hdesk : u'.desk = u.desk) (hcalls : u'.calls = u.calls)
    (hu : u.callers = t.callers.set m c) (hu' : u'.callers = t'.callers.set m c) :
    Without ns u u' where
  desk := hdesk
  calls := hcalls
  length := by rw [hu, hu', List.length_set, List.length_set, h.length]
  others n hn := by
    rw [hu, hu', List.getElem?_set, List.getElem?_set, h.length, h.others n hn]
  gone n hn := by
    have hne : m ≠ n := fun heq => hm (heq ▸ hn)
    have hsame : u.callers[n]? = t.callers[n]? := by rw [hu, List.getElem?_set_ne hne]
    rw [waits_congr hsame, hsame, hu', List.getElem?_set_ne hne]
    exact h.gone n hn

/-- Both come to have the same desk and the same calls. -/
theorem withDesk (h : Without ns t t') {u u' : Traffic} (hdesk : u'.desk = u.desk)
    (hcalls : u'.calls = u.calls) (hu : u.callers = t.callers) (hu' : u'.callers = t'.callers) :
    Without ns u u' where
  desk := hdesk
  calls := hcalls
  length := by rw [hu, hu', h.length]
  others n hn := by rw [hu, hu', h.others n hn]
  gone n hn := by
    rw [waits_congr (show u.callers[n]? = t.callers[n]? by rw [hu]), hu, hu']
    exact h.gone n hn

theorem run (h : Without ns t t') (hs : t.Attached) (n : Nat) :
    Without ns (t.run n) (t'.run n) := by
  by_cases hn : n ∈ ns
  · obtain ⟨hrest, hrest'⟩ := h.rest hs hn
    unfold Traffic.run
    rw [hrest, hrest']
    exact h.withDesk h.desk h.calls rfl rfl
  · -- the turn of everybody else is the same in both, and so is the answer
    have hturn : t'.turn n = t.turn n := by
      unfold turn owes
      rw [h.others n hn, h.desk]
    unfold Traffic.run
    rw [hturn]
    cases t.turn n with
    | rest => exact h.withDesk h.desk h.calls rfl rfl
    | finish outcome => exact h.set hn _ h.desk h.calls rfl rfl
    | ask refused =>
      simp only [ask, h.desk]
      -- whether it is answered, joins or launches, it does so in both
      rcases t.desk.ask n refused with ⟨_ | _ | _, desk⟩
      · exact h.set hn _ rfl h.calls rfl rfl
      · exact h.set hn _ rfl h.calls rfl rfl
      · exact h.set hn _ rfl (by simp only [setCaller, h.calls]) rfl rfl

theorem cancel (h : Without ns t t') (n : Nat) : Without ns (t.cancel n) (t'.cancel n) := by
  by_cases hn : n ∈ ns
  · -- whoever went away in `t'` does so in `t` now, or has done so before
    obtain ⟨hgone, hwaits⟩ := h.gone n hn
    have hlive : ∃ c, t.callers[n]? = some c ∧ ∀ outcome, c ≠ .finished outcome := by
      rcases hwaits with hwaits | hcancelled
      · obtain ⟨refused, superseded, hc⟩ := waits_iff.mp hwaits
        exact ⟨_, hc, fun _ heq => by cases heq⟩
      · exact ⟨_, hcancelled, fun _ heq => by cases heq⟩
    obtain ⟨c, hc, hunfinished⟩ := hlive
    have hu := cancel_callers_of_live hc hunfinished
    have hu' := cancel_callers_of_live hgone fun _ heq => by cases heq
    refine ⟨by simp [h.desk], by simp [h.calls], by simp [hu, hu', h.length], ?_, ?_⟩
    · intro m hm
      rw [hu, hu', List.getElem?_set, List.getElem?_set, h.length, h.others m hm]
    · intro m hm
      by_cases hmn : m = n
      · subst hmn
        rw [hu, hu', getElem?_set_of_some hc, getElem?_set_of_some hgone, if_pos rfl, if_pos rfl]
        exact ⟨rfl, Or.inr rfl⟩
      · have hsame : (t.cancel n).callers[m]? = t.callers[m]? := by
          rw [hu, List.getElem?_set_ne (Ne.symm hmn)]
        rw [waits_congr hsame, hsame, hu', List.getElem?_set_ne (Ne.symm hmn)]
        exact h.gone m hm
  · unfold Traffic.cancel
    rw [h.others n hn]
    split
    · exact h
    · exact h.set hn _ h.desk h.calls rfl rfl

/-- **Step.**  Until the flight lands, nobody else sees a difference. -/
theorem step (h : Without ns t t') (hs : t.Attached) (e : Event)
    (he : ∀ place ending, e ≠ .settle place ending) : Without ns (t.step e) (t'.step e) := by
  cases e with
  | spawn refused =>
    refine ⟨h.desk, h.calls, ?_, fun n hn => ?_, fun n hn => ?_⟩
    · simp [Traffic.step, spawn, h.length]
    · show (t'.spawn refused).callers[n]? = (t.spawn refused).callers[n]?
      rw [spawn_callers, spawn_callers, h.length, h.others n hn]
    · have hgone := h.gone n hn
      have hlt : n < t.callers.length := by
        rw [← h.length]
        exact (List.getElem?_eq_some_iff.mp hgone.1).1
      have hold : (t.spawn refused).callers[n]? = t.callers[n]? := by
        rw [spawn_callers, if_neg (Nat.ne_of_lt hlt)]
      have hold' : (t'.spawn refused).callers[n]? = t'.callers[n]? := by
        rw [spawn_callers, if_neg (by rw [h.length]; exact Nat.ne_of_lt hlt)]
      show (t'.spawn refused).callers[n]? = _ ∧ ((t.spawn refused).waits n = true ∨
        (t.spawn refused).callers[n]? = _)
      rw [waits_congr hold, hold, hold']
      exact hgone
  | run n => exact h.run hs n
  | settle place ending => exact absurd rfl (he place ending)
  | cancel n => exact h.cancel n
  | signIn c => exact h.withDesk (by simp [Traffic.step, onSession, h.desk]) h.calls rfl rfl
  | signOut => exact h.withDesk (by simp [Traffic.step, onSession, h.desk]) h.calls rfl rfl
  | claimPrompt => exact h.withDesk (by simp [Traffic.step, onSession, h.desk]) h.calls rfl rfl
  | store store => exact h.withDesk (by simp [Traffic.step, onSession, h.desk]) h.calls rfl rfl

/-- **Run.**  As long as no call ends, nobody else sees a difference. -/
theorem after (h : Without ns t t') (hs : t.Sound) (ha : t.Attached) {es : List Event}
    (hes : ∀ place ending, .settle place ending ∉ es) : Without ns (t.after es) (t'.after es) := by
  induction es generalizing t t' with
  | nil => exact h
  | cons e es ih =>
    have he : ∀ place ending, e ≠ .settle place ending := fun place ending heq =>
      hes place ending (heq ▸ List.mem_cons_self)
    exact ih (h.step ha e he) (hs.step e) (ha.step hs e)
      fun place ending hmem => hes place ending (List.mem_cons_of_mem _ hmem)

/-- The landing does the same for everybody else. -/
theorem settle (h : Without ns t t') (place : Nat) (ending : Ending) :
    (t'.step (.settle place ending)).desk = (t.step (.settle place ending)).desk ∧
      ∀ n, n ∉ ns → (t'.step (.settle place ending)).callers[n]? =
        (t.step (.settle place ending)).callers[n]? := by
  show (t'.settleAt place ending.result).desk = (t.settleAt place ending.result).desk ∧
    ∀ n, n ∉ ns → (t'.settleAt place ending.result).callers[n]? =
      (t.settleAt place ending.result).callers[n]?
  simp only [settleAt, h.calls]
  cases t.calls[place]? with
  | none => exact ⟨h.desk, h.others⟩
  | some call =>
    simp only [Traffic.settle, h.desk]
    rcases t.desk.settle call.generation ending.result with ⟨_ | ⟨waiters, outcome⟩, desk⟩
    · exact ⟨rfl, h.others⟩
    · refine ⟨by simp only [wakeAll_desk], fun n hn => ?_⟩
      simp only [wakeAll_callers, h.others n hn]

end Without

/-- One more of those who wait goes away. -/
theorem Without.drop {ns : List Nat} {t t' : Traffic} (h : Without ns t t') {n : Nat}
    (hwaits : t.waits n = true) : Without (n :: ns) t (t'.cancel n) := by
  obtain ⟨refused, superseded, hc⟩ := waits_iff.mp hwaits
  have hthere : ∃ c, t'.callers[n]? = some c ∧ ∀ outcome, c ≠ .finished outcome := by
    by_cases hn : n ∈ ns
    · exact ⟨_, (h.gone n hn).1, fun _ heq => by cases heq⟩
    · exact ⟨_, (h.others n hn).trans hc, fun _ heq => by cases heq⟩
  obtain ⟨c, hc', hlive⟩ := hthere
  have hu := cancel_callers_of_live hc' hlive
  have hother : ∀ m, m ≠ n → (t'.cancel n).callers[m]? = t'.callers[m]? := fun m hm => by
    rw [hu, List.getElem?_set_ne (Ne.symm hm)]
  refine ⟨by rw [cancel_desk, h.desk], by rw [cancel_calls, h.calls],
    by rw [hu, List.length_set, h.length], fun m hm => ?_, fun m hm => ?_⟩
  · rw [List.mem_cons, not_or] at hm
    rw [hother m hm.1, h.others m hm.2]
  · by_cases hmn : m = n
    · subst hmn
      rw [hu, getElem?_set_of_some hc', if_pos rfl]
      exact ⟨rfl, Or.inl hwaits⟩
    · rw [hother m hmn]
      exact h.gone m ((List.mem_cons.mp hm).resolve_left hmn)

/-- Any of those who wait go away. -/
theorem Without.cancelled {t : Traffic} {ns : List Nat} (hns : ∀ n ∈ ns, t.waits n = true)
    {ms : List Nat} {t' : Traffic} (h : Without ms t t') :
    Without (ns.reverse ++ ms) t (t'.after (ns.map .cancel)) := by
  induction ns generalizing ms t' with
  | nil => exact h
  | cons n ns ih =>
    -- the one that leaves now comes before those that have left
    rw [List.reverse_cons, List.append_assoc]
    exact ih (fun m hm => hns m (List.mem_cons_of_mem _ hm)) (h.drop (hns n List.mem_cons_self))

/-- Whether some of those who wait go away before the flight lands is nothing
to the session or to anybody else. -/
theorem settle_after_cancel {t : Traffic} (hs : t.Sound) (h : t.Attached) {ns : List Nat}
    (hns : ∀ n ∈ ns, t.waits n = true) {between : List Event}
    (hbetween : ∀ place ending, .settle place ending ∉ between) (place : Nat) (ending : Ending) :
    let kept := t.after (between ++ [.settle place ending])
    let left := t.after (ns.map .cancel ++ between ++ [.settle place ending])
    left.desk = kept.desk ∧ ∀ n, n ∉ ns → left.callers[n]? = kept.callers[n]? := by
  -- the two runs part when the callers leave, and stay alike until the landing
  have hself : Without [] t t := ⟨rfl, rfl, rfl, fun _ _ => rfl, nofun⟩
  obtain ⟨hdesk, hcallers⟩ :=
    ((hself.cancelled hns).after hs h hbetween).settle place ending
  simp only [after_concat, after_append t (ns.map .cancel) between]
  refine ⟨hdesk, fun n hn => hcallers n ?_⟩
  rwa [List.append_nil, List.mem_reverse]

/-! ### The main theorem -/

/-- **Nobody is stranded, left out or answered twice.**  At the end of any run
over a restored session:

* nobody is on the list twice; whoever waits is on it, and there is a flight;
  whoever was woken is not on it any more, and what it was woken with is the last
  thing that was sent to it;
* so nobody waits unless a call is without an end, and whoever waits goes on
  waiting when it runs: there is always somebody to wake it;
* all that came to the list so far were sent something, in the order in which
  they came, or are still on it, in that order;
* a call that ends sends one outcome to everybody on the list, leaves no flight
  behind, and wakes those who wait with this outcome, in that order;
* whichever of those who wait go away, and whatever happens until the call ends,
  the session and everybody else are then as if nobody had gone. -/
theorem delivery_after (store : Store) (es : List Event) :
    let t₀ := start (.restore store)
    let t := t₀.after es
    t.waiters.Nodup ∧
    (∀ n, t.waits n = true →
      ∃ flight, t.desk.flight = some flight ∧ flight.waiters.count n = 1) ∧
    (∀ (n : Nat) refused superseded outcome,
      t.callers[n]? = some (.woken refused superseded outcome) →
        n ∉ t.waiters ∧ LastSent (t₀.seen sent es) n outcome) ∧
    (t.calls = [] → ∀ n, t.waits n = false) ∧
    (∀ n, t.waits n = true → t.turn n = .rest) ∧
    t₀.seen came es = (t₀.seen sent es).map (·.1) ++ t.waiters ∧
    (∀ place ending call, t.calls[place]? = some call →
      let t' := t.step (.settle place ending)
      ∃ outcome, t.sent (.settle place ending) = t.waiters.map (·, outcome) ∧
        t'.desk.flight = none ∧
        t'.ready = t.ready ++ t.waiters.filter t.waits ∧
        ∀ (n : Nat) refused superseded, t.callers[n]? = some (.waiting refused superseded) →
          t'.callers[n]? = some (.woken refused superseded outcome)) ∧
    (∀ ns : List Nat, (∀ n ∈ ns, t.waits n = true) →
      ∀ between, (∀ place ending, .settle place ending ∉ between) → ∀ place ending,
        let kept := t.after (between ++ [.settle place ending])
        let left := t.after (ns.map .cancel ++ between ++ [.settle place ending])
        left.desk = kept.desk ∧ ∀ n, n ∉ ns → left.callers[n]? = kept.callers[n]?) := by
  intro t₀ t
  have hs₀ : t₀.Sound := .start store
  have ha₀ : t₀.Attached := .start _
  have hs : t.Sound := hs₀.after es
  have ha : t.Attached := ha₀.after hs₀ es
  have hinformed : t.Informed (t₀.seen sent es) := by
    have hi₀ : t₀.Informed [] := fun n _ _ _ hn => by simp [t₀, start] at hn
    exact hi₀.after hs₀ ha₀ es
  refine ⟨ha.nodup, fun n hn => ?_, hinformed, fun hcalls n => ?_, fun n hn => ha.turn_of_waits hn,
    seen_came hs₀ ha₀ es, fun place ending call hcall => settle_wakes hs ha place ending hcall,
    fun ns hns between hbetween place ending => settle_after_cancel hs ha hns hbetween place ending⟩
  · obtain ⟨flight, hflight, hmem⟩ := ha.flight_of_waits hn
    have hnodup := ha.nodup
    rw [waiters_of_some hflight] at hnodup
    exact ⟨flight, hflight, by rw [hnodup.count, if_pos hmem]⟩
  · rw [Bool.eq_false_iff]
    intro hn
    -- without a call there is no flight to wait for
    obtain ⟨flight, hflight, -⟩ := ha.flight_of_waits hn
    obtain ⟨call, hcall, -⟩ := hs.calls_eq_singleton hflight
    rw [hcalls] at hcall
    cases hcall

end Traffic

end SessionKeeper
