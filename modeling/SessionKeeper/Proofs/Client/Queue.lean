import SessionKeeper.Proofs.Client.Ledger

/-! # Nobody is left behind

A task that has to wait for a flight stands in line, and is woken when the flight
has landed.  The line is kept in two places: the waiters of the flight under way, and
the steps that wake those whose flight is down.

* A task that waits stands in line once, and no other live task does
  (`Placed.turns`).  So it is woken once, and not twice.
* A task that has not begun is about to (`Placed.starts`).
* Whoever waits for the flight under way knows whether it will have to ask again
  (`Placed.under`).

Core Lean 4 only; no Mathlib. -/

namespace SessionKeeper

open SingleFlight (Flight)

namespace Client

/-! ### The line -/

/-- The task that a step wakes. -/
def Step.woken? : Step → Option Nat
  | .wake n _ => some n
  | _ => none

/-- Whether a task waits for a flight. -/
def Stage.waits : Stage → Bool
  | .waiting _ _ _ => true
  | _ => false

/-- Who waits for the flight under way. -/
def waiters (c : Client) : List Nat :=
  (c.desk.flight.map (·.waiters)).getD []

/-- Whom steps are about to wake. -/
def woken (c : Client) : List Nat :=
  c.ready.filterMap Step.woken?

/-- How often task `n` stands in line. -/
def turns (c : Client) (n : Nat) : Nat :=
  c.waiters.count n + c.woken.count n

/-- The task that an event wakes. -/
def wakes? (c : Client) : Event → Option Nat
  | .go place => c.ready[place]?.bind Step.woken?
  | _ => none

/-- Task `n` stands in line as often as it should at its stage. -/
structure Placed (c : Client) (n : Nat) (stage : Stage) : Prop where
  starts : stage = .starting → .start n ∈ c.ready
  turns : stage ≠ .done → c.turns n = if stage.waits then 1 else 0
  under : ∀ flight occasion g superseded, c.desk.flight = some flight → n ∈ flight.waiters →
    stage = .waiting occasion g superseded → superseded = flight.generation.isOlder g

/-- Everybody stands in line as often as they should. -/
structure Queued (c : Client) : Prop where
  placed : ∀ n t, c.tasks[n]? = some t → Placed c n t.stage
  /-- Tasks that are not there yet do not wait. -/
  vacant : ∀ n, c.tasks.length ≤ n → c.turns n = 0

section parts

variable (c : Client)

theorem turns_noting (e : Event) (n : Nat) :
    (c.noting e).turns n + (c.wakes? e).toList.count n = c.turns n := by
  cases e with
  | go place =>
    cases hstep : c.ready[place]? with
    | none =>
      have hsame : c.ready.eraseIdx place = c.ready :=
        List.eraseIdx_of_length_le (List.getElem?_eq_none_iff.mp hstep)
      simp [turns, waiters, woken, noting, wakes?, hstep, hsame]
    | some s =>
      obtain ⟨l₁, l₂, hready, hrest⟩ := split_of_getElem? hstep
      simp only [turns, waiters, woken, noting, wakes?, hstep, hrest]
      simp only [hready, List.filterMap_append, List.filterMap_cons, Option.bind_some]
      cases hs : s.woken? with
      | none => simp
      | some m =>
        simp only [List.count_append, List.count_cons, Option.toList_some, List.count_nil]
        omega
  | _ => rfl

theorem turns_settleFlight (g : Generation) (result : Except CallError Credentials) (n : Nat) :
    (c.settleFlight g result).turns n = c.turns n := by
  unfold settleFlight SingleFlight.settle
  cases hflight : c.desk.flight with
  | none => simp [turns, waiters, woken, hflight]
  | some flight =>
    by_cases hg : flight.generation = g
    · simp only [hg, if_true]
      have hwoken :
          (flight.waiters.map (Step.wake · (SingleFlight.land c.desk.session g result).1)).filterMap
          Step.woken? = flight.waiters := by
        simp [List.filterMap_map, Function.comp_def, Step.woken?]
      simp only [turns, waiters, woken, enable, hflight, List.filterMap_append, hwoken,
        List.count_append, Option.map_none, Option.getD_none, List.count_nil, Option.map_some,
        Option.getD_some]
      omega
    · simp [turns, waiters, woken, hflight, hg]

end parts

/-! ### What an event takes from the line -/

section noting

variable {c d : Client} {e : Event} {n : Nat} {t : Task} {stage : Stage}

theorem mem_noting {s : Step} (h : s ∈ c.ready)
    (hne : ∀ place, e = .go place → c.ready[place]? ≠ some s) : s ∈ (c.noting e).ready := by
  cases e with
  | go place =>
    cases hstep : c.ready[place]? with
    | none =>
      rw [noting, List.eraseIdx_of_length_le (List.getElem?_eq_none_iff.mp hstep)]
      exact h
    | some s' =>
      obtain ⟨l₁, l₂, hready, hrest⟩ := split_of_getElem? hstep
      rw [noting, hrest]
      rw [hready] at h
      rcases List.mem_append.mp h with h₁ | h₂
      · exact List.mem_append_left _ h₁
      · rcases List.mem_cons.mp h₂ with rfl | h₂
        · exact absurd hstep (hne place rfl)
        · exact List.mem_append_right _ h₂
  | _ => exact h

/-- Whoever is woken is a task that waits. -/
theorem Queued.concerns (h : c.Queued) (htask : c.tasks[n]? = some t) (hlive : t.stage ≠ .done)
    (hwakes : c.wakes? e = some n) : Concerns c n t e := by
  cases e with
  | go place =>
    obtain ⟨s, hstep, hs⟩ := Option.bind_eq_some_iff.mp hwakes
    have hturns := (h.placed n t htask).turns hlive
    have hnoting := c.turns_noting (.go place) n
    rw [hwakes, hturns] at hnoting
    cases hstage : t.stage with
    | waiting occasion g superseded =>
      cases s with
      | wake m outcome =>
        cases hs
        exact .wake hstep hstage
      | _ => cases hs
    | _ =>
      rw [hstage] at hnoting
      simp [Stage.waits] at hnoting
  | _ => cases hwakes

/-- What matters to a task in line: that it is about to begin, how often it stands
in line, and the flight that it waits for. -/
theorem Placed.frame (h : Placed c n stage)
    (hstart : stage = .starting → .start n ∈ c.ready → .start n ∈ d.ready)
    (hturns : stage ≠ .done → d.turns n = c.turns n)
    (hunder : ∀ flight, d.desk.flight = some flight → n ∈ flight.waiters →
      ∃ flight₀, c.desk.flight = some flight₀ ∧ n ∈ flight₀.waiters ∧
        flight₀.generation = flight.generation) : Placed d n stage where
  starts hstage := hstart hstage (h.starts hstage)
  turns hlive := by rw [hturns hlive]; exact h.turns hlive
  under flight occasion g superseded hflight hmem hstage := by
    obtain ⟨flight₀, hflight₀, hmem₀, hg⟩ := hunder flight hflight hmem
    rw [← hg]
    exact h.under flight₀ occasion g superseded hflight₀ hmem₀ hstage

/-- A task that does not wait has no place in line. -/
theorem Placed.resting (hstart : stage ≠ .starting) (hwaits : stage.waits = false)
    (hturns : stage ≠ .done → c.turns n = 0) : Placed c n stage where
  starts hstage := absurd hstage hstart
  turns hlive := by
    rw [hturns hlive, hwaits]
    rfl
  under flight occasion g superseded hflight hmem hstage := by
    rw [hstage] at hwaits
    cases hwaits

/-- A task stays in line where an event does not concern it. -/
theorem Placed.noting (h : Placed c n stage)
    (hstart : stage = .starting → ∀ place, e = .go place → c.ready[place]? ≠ some (.start n))
    (hwakes : stage ≠ .done → c.wakes? e ≠ some n) : Placed (c.noting e) n stage := by
  refine h.frame (fun hstage hmem => mem_noting hmem (hstart hstage)) (fun hlive => ?_)
    fun flight hflight hmem => ⟨flight, by rw [← hflight, noting_desk], hmem, rfl⟩
  have hnoting := c.turns_noting e n
  have hcount : (c.wakes? e).toList.count n = 0 := by
    rw [List.count_eq_zero, Option.mem_toList]
    exact hwakes hlive
  omega

/-- A task whose turn it is does not stand in line any more. -/
theorem Placed.turns_of_concerns (h : Placed c n t.stage) (concerns : Concerns c n t e) :
    (c.noting e).turns n = 0 := by
  have hnoting := c.turns_noting e n
  have hturns := h.turns concerns.live
  cases concerns with
  | start step stage =>
    rw [stage] at hturns
    simp only [Stage.waits, Bool.false_eq_true, if_false] at hturns
    omega
  | wake step stage =>
    rw [stage] at hturns
    simp only [Stage.waits, if_true] at hturns
    simp only [wakes?, step, Option.bind_some, Step.woken?, Option.toList_some,
      List.count_singleton_self] at hnoting
    omega
  | reply awaited stage =>
    cases hstage : t.stage with
    | waiting occasion g superseded =>
      rw [hstage] at stage
      cases stage
    | _ =>
      rw [hstage] at hturns
      simp [Stage.waits] at hturns
      omega

end noting

/-! ### Those who act, and the others -/

section acted

variable {c c' : Client} {e : Event} {n m : Nat} {t : Task} {stage : Stage}

theorem Beside.turns {d : Client} (h : Beside c d) (n : Nat) : d.turns n = c.turns n := by
  simp only [Client.turns, waiters, woken, h.flight, h.ready]

/-- What a task does changes nothing in the line but for itself. -/
theorem Acted.turns_of_ne (h : Acted c e n t c') (hm : m ≠ n) :
    c'.turns m = (c.noting e).turns m := by
  cases h with
  | sendsFirst request due shown authorized => rfl
  | sendsAgain request hears authorized => rfl
  | joins asks under => simp [turns, waiters, woken, setStage, under, Ne.symm hm]
  | launches asks idle state now =>
    simp [turns, waiters, woken, setStage, enable, idle, Ne.symm hm]
    rfl
  | ends ended =>
    obtain ⟨hbeside⟩ := ended
    exact hbeside.turns m

theorem Acted.placed_of_ne (h : Acted c e n t c') (hm : m ≠ n)
    (hplaced : Placed (c.noting e) m stage) : Placed c' m stage := by
  have hturns := h.turns_of_ne hm
  cases h with
  | sendsFirst request due shown authorized =>
    exact hplaced.frame (fun _ hmem => hmem) (fun _ => hturns)
      fun flight hflight hmem => ⟨flight, hflight, hmem, rfl⟩
  | sendsAgain request hears authorized =>
    exact hplaced.frame (fun _ hmem => hmem) (fun _ => hturns)
      fun flight hflight hmem => ⟨flight, hflight, hmem, rfl⟩
  | @joins occasion g flight asks under =>
    refine hplaced.frame (fun _ hmem => hmem) (fun _ => hturns) fun flight' hflight' hmem => ?_
    cases hflight'
    refine ⟨flight, by rw [noting_desk, under], ?_, rfl⟩
    simpa [hm] using hmem
  | launches asks idle state now =>
    refine hplaced.frame (fun _ hmem => List.mem_append_left _ hmem) (fun _ => hturns)
      fun flight' hflight' hmem => ?_
    cases hflight'
    exact absurd (List.mem_singleton.mp hmem) hm
  | ends ended =>
    obtain @⟨d, hbeside⟩ := ended
    refine hplaced.frame (fun _ hmem => ?_) (fun _ => hturns) fun flight hflight hmem => ?_
    · show _ ∈ d.ready
      rw [hbeside.ready]
      exact hmem
    · exact ⟨flight, hbeside.flight.symm.trans hflight, hmem, rfl⟩

/-- A task that has acted stands in line again if it waits. -/
theorem Acted.placed_self (h : Acted c e n t c') (htask : c.tasks[n]? = some t)
    (hturns : (c.noting e).turns n = 0) :
    ∃ stage, (c'.file n).task = some { t with stage } ∧ Placed c' n stage := by
  have hnoted : ((c.noting e).file n).task = some t := by rw [file_noting]; exact htask
  have hcome : ∀ stage, (((c.noting e).file n).come stage).task = some { t with stage } :=
    fun stage => congrArg (Option.map _) hnoted
  cases h with
  | sendsFirst request due shown authorized =>
    exact ⟨_, (file_sends c e htask _ _).1, .resting (by simp) rfl fun _ => hturns⟩
  | sendsAgain request hears authorized =>
    exact ⟨_, (file_sends c e htask _ _).1, .resting (by simp) rfl fun _ => hturns⟩
  | @joins occasion g flight asks under =>
    rw [file_setStage, if_pos rfl]
    refine ⟨_, hcome _, fun hstage => (by cases hstage), fun _ => ?_,
      fun flight' _ _ _ hflight' _ hstage => ?_⟩
    · simp only [turns, waiters, woken, noting_desk, under, Option.map_some,
        Option.getD_some] at hturns
      simp only [turns, waiters, woken, setStage, Option.map_some, Option.getD_some,
        List.count_append, List.count_singleton_self, Stage.waits, if_true]
      omega
    · cases hflight'
      cases hstage
      rfl
  | @launches occasion g current asks idle state now =>
    rw [file_enable, file_setStage, if_pos rfl]
    refine ⟨_, hcome _, fun hstage => (by cases hstage), fun _ => ?_,
      fun flight' _ _ _ hflight' _ hstage => ?_⟩
    · simp only [turns, waiters, woken, noting_desk, idle, Option.map_none, Option.getD_none,
        List.count_nil] at hturns
      simp only [turns, waiters, woken, setStage, enable, Option.map_some, Option.getD_some,
        List.filterMap_append, List.count_append, List.count_singleton_self, Stage.waits, if_true]
      simp only [List.filterMap_cons, Step.woken?, List.filterMap_nil, List.count_nil]
      omega
    · cases hflight'
      cases hstage
      exact (Generation.isOlder_eq_false.mpr (Nat.le_refl _)).symm
  | ends ended =>
    rw [ended.file, if_pos rfl]
    exact ⟨.done, hcome _, .resting (by simp) rfl fun hlive => absurd rfl hlive⟩

end acted

/-! ### Runs -/

section runs

variable {c : Client}

/-- A task that stands in line for the flight is not woken yet. -/
theorem Queued.not_woken (h : c.Queued) {n : Nat} {t : Task} (htask : c.tasks[n]? = some t)
    (hlive : t.stage ≠ .done) (hwaits : n ∈ c.waiters) (outcome : SingleFlight.Outcome) :
    .wake n outcome ∉ c.ready := by
  intro hmem
  have hturns := (h.placed n t htask).turns hlive
  have hwaiters := List.count_pos_iff.mpr hwaits
  have hwoken : 0 < c.woken.count n :=
    List.count_pos_iff.mpr (List.mem_filterMap.mpr ⟨_, hmem, rfl⟩)
  unfold turns at hturns
  split at hturns <;> omega

theorem Queued.new (options : Options) (store : Store) (now : Time.Instant) :
    (Client.new options store now).Queued :=
  ⟨fun _ _ ht => (by cases ht), fun _ _ => rfl⟩

/-- The line stays the same where tasks, steps and waiters do. -/
theorem Queued.frame {d : Client} (h : c.Queued) (htasks : d.tasks = c.tasks)
    (hready : ∀ s ∈ c.ready, s ∈ d.ready) (hturns : ∀ n, d.turns n = c.turns n)
    (hflight : ∀ flight, d.desk.flight = some flight → c.desk.flight = some flight) :
    d.Queued where
  placed n t ht := by
    rw [htasks] at ht
    exact (h.placed n t ht).frame (fun _ => hready _) (fun _ => hturns n)
      fun flight hsome hmem => ⟨flight, hflight flight hsome, hmem, rfl⟩
  vacant n hn := by
    rw [htasks] at hn
    rw [hturns]
    exact h.vacant n hn

theorem turns_noting_le (e : Event) (n : Nat) : (c.noting e).turns n ≤ c.turns n := by
  have hnoting := c.turns_noting e n
  omega

/-- A task that an event does not concern stays in line. -/
theorem Queued.placed_noting (h : c.Queued) {e : Event} {n : Nat} {t : Task}
    (htask : c.tasks[n]? = some t) (hnot : ¬ Concerns c n t e) :
    Placed (c.noting e) n t.stage := by
  refine (h.placed n t htask).noting (fun hstage place heq hstep => hnot ?_)
    fun hlive hwakes => hnot (h.concerns htask hlive hwakes)
  rw [heq]
  exact .start hstep hstage

/-- The line after an event that does not concern any task. -/
theorem Queued.noting (h : c.Queued) {e : Event}
    (hnot : ∀ n t, c.tasks[n]? = some t → ¬ Concerns c n t e) : (c.noting e).Queued where
  placed n t ht := by
    rw [noting_tasks] at ht
    exact h.placed_noting ht (hnot n t ht)
  vacant n hn := by
    rw [noting_tasks] at hn
    exact Nat.le_zero.mp (h.vacant n hn ▸ turns_noting_le e n)

/-- What concerns a task is no flight's business. -/
theorem Concerns.quiet {e : Event} {n : Nat} {t : Task} (h : Concerns c n t e) :
    c.calling? e = none := by
  cases h with
  | start step stage => simp [calling?, step, Step.launched?]
  | wake step stage => simp [calling?, step, Step.launched?]
  | reply awaited stage => simp [calling?, awaited, Owner.flight?]

/-- An event concerns one task at most. -/
theorem Concerns.eq {e : Event} {n m : Nat} {t t' : Task} (h : Concerns c n t e)
    (h' : Concerns c m t' e) : m = n := by
  cases h with
  | start step stage =>
    cases h' with
    | start step' stage' => cases step.symm.trans step'; rfl
    | wake step' stage' => cases step.symm.trans step'
  | wake step stage =>
    cases h' with
    | start step' stage' => cases step.symm.trans step'
    | wake step' stage' => cases step.symm.trans step'; rfl
  | reply awaited stage =>
    cases h' with
    | reply awaited' stage' => cases awaited.symm.trans awaited'; rfl

/-- **Step.**  Nobody is left behind in an event. -/
theorem Queued.step (h : c.Queued) (hc : c.Ledger) (e : Event) : (c.step e).Queued := by
  have hhappened := hc.happened e
  generalize c.step e = c' at hhappened
  cases hhappened with
  | idle beside =>
    exact h.frame beside.tasks (fun s hs => beside.ready ▸ hs) beside.turns
      fun flight hflight => beside.flight ▸ hflight
  | ignored quiet noReply nobody =>
    refine h.noting fun n t ht hconcerns => ?_
    obtain ⟨hstarted, error, herror⟩ := nobody n t ht hconcerns
    exact ((hc.kept n t ht).unbuilt error herror).2.elim hstarted hconcerns.live
  | spawned purpose request =>
    have hturns : ∀ n, (c.spawn purpose request).turns n = c.turns n := fun n => by
      simp [turns, waiters, woken, spawn, enable]
      rfl
    refine ⟨fun n t ht => ?_, fun n hn => ?_⟩
    · rw [show (c.spawn purpose request).tasks[n]? = _ from congrArg File.task (file_spawn c n _ _)]
        at ht
      by_cases hn : n = c.tasks.length
      · rw [if_pos hn] at ht
        cases ht
        refine ⟨fun _ => ?_, fun _ => ?_, fun _ _ _ _ _ _ hstage => by cases hstage⟩
        · rw [hn]
          exact List.mem_append_right _ List.mem_cons_self
        · rw [hturns, h.vacant n (Nat.le_of_eq hn.symm)]
          rfl
      · rw [if_neg hn] at ht
        exact (h.placed n t ht).frame (fun _ => List.mem_append_left _) (fun _ => hturns n)
          fun flight hflight hmem => ⟨flight, hflight, hmem, rfl⟩
    · rw [hturns]
      refine h.vacant n (Nat.le_trans ?_ hn)
      simp [spawn, enable]
  | aborted m =>
    refine ⟨fun n t ht => ?_, fun n hn => h.vacant n (by simpa [abort, setStage] using hn)⟩
    rw [show (c.abort m).tasks[n]? = _ from congrArg File.task (file_abort c m n)] at ht
    by_cases hn : n = m
    · rw [if_pos hn] at ht
      obtain ⟨t₀, -, rfl⟩ := Option.map_eq_some_iff.mp ht
      exact .resting (by simp) rfl fun hlive => absurd rfl hlive
    · rw [if_neg hn] at ht
      exact (h.placed n t ht).frame (fun _ hmem => hmem) (fun _ => rfl)
        fun flight hflight hmem => ⟨flight, hflight, hmem, rfl⟩
  | @acted m t _ task concerns quiet acted =>
    refine ⟨fun n t' ht' => ?_, fun n hn => ?_⟩
    · by_cases hn : n = m
      · subst hn
        obtain ⟨stage, ht, hplaced⟩ :=
          acted.placed_self task ((h.placed n t task).turns_of_concerns concerns)
        cases ht.symm.trans ht'
        exact hplaced
      · have hfile := congrArg File.task (acted.file_of_ne hn)
        rw [file_noting] at hfile
        have ht : c.tasks[n]? = some t' := hfile.symm.trans ht'
        exact acted.placed_of_ne hn (h.placed_noting ht fun hconcerns => hn (concerns.eq hconcerns))
    · have hnone : (c'.file n).task = none := List.getElem?_eq_none_iff.mpr hn
      have hm : n ≠ m := by
        rintro rfl
        obtain ⟨stage, ht, -⟩ :=
          acted.placed_self task ((h.placed n t task).turns_of_concerns concerns)
        rw [ht] at hnone
        cases hnone
      rw [acted.file_of_ne hm, file_noting] at hnone
      have hvacant := h.vacant n (List.getElem?_eq_none_iff.mp hnone)
      rw [acted.turns_of_ne hm]
      exact Nat.le_zero.mp (hvacant ▸ turns_noting_le e n)
  | @departs place g current r event step request =>
    have hquiet : c.calling? e = some g := by rw [event]; simp [calling?, step, Step.launched?]
    have hnoting : (c.noting e).Queued := h.noting fun n t ht hconcerns => by
      rw [hconcerns.quiet] at hquiet
      cases hquiet
    exact hnoting.frame rfl (fun _ hs => hs) (fun _ => rfl) fun _ hflight => hflight
  | @lands g result calling =>
    have hnoting : (c.noting e).Queued := h.noting fun n t ht hconcerns => by
      rw [hconcerns.quiet] at calling
      cases calling
    exact hnoting.frame (settleFlight_tasks _ _ _) (fun s hs => mem_settleFlight _ hs _ _)
      (turns_settleFlight _ _ _) fun flight => flight_of_settleFlight _

/-- **Run.**  Nobody is left behind at any time. -/
theorem Queued.after (h : c.Queued) (hc : c.Ledger) (es : List Event) : (c.after es).Queued := by
  induction es generalizing c with
  | nil => exact h
  | cons e es ih => exact ih (h.step hc e) (hc.step e)

end runs

end Client

end SessionKeeper
