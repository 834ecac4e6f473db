import SessionKeeper.Proofs.Lists
import SessionKeeper.Proofs.Refresh.Runs

/-! # Callers and the list of those who wait

A caller that waits and the place that a flight keeps for it are two things in
two places, and callers come, go and are cancelled at any time.
`Traffic.Attached` ties them together: whoever waits is on the list of the
flight under way, nobody is on it twice, and whoever is on it waits or was
cancelled.

So the one who waits always has somebody to wake it, and a caller that runs is
in one of three positions that matter (`turn_spec`): it has not asked yet, or
it was woken after a flight that concerned it, or after a superseded one.

Core Lean 4 only; no Mathlib. -/

namespace SessionKeeper

open SingleFlight (Outcome Reply Flight Asked Landed)

namespace Traffic

theorem spawn_callers (t : Traffic) (refused : Generation) (m : Nat) :
    (t.spawn refused).callers[m]? =
      if m = t.callers.length then some (.asking refused) else t.callers[m]? := by
  show (t.callers ++ [.asking refused])[m]? = _
  by_cases hm : m = t.callers.length
  · subst hm
    simp
  · rw [if_neg hm]
    by_cases hlt : m < t.callers.length
    · exact List.getElem?_append_left hlt
    · rw [List.getElem?_eq_none (by simp; omega), List.getElem?_eq_none (by omega)]

/-! ### Who waits -/

/-- Those who wait for the flight under way, in the order in which they came. -/
def waiters (t : Traffic) : List Nat :=
  match t.desk.flight with
  | some flight => flight.waiters
  | none => []

theorem waiters_of_some {t : Traffic} {flight : Flight} (h : t.desk.flight = some flight) :
    t.waiters = flight.waiters := by
  simp [waiters, h]

theorem waiters_of_none {t : Traffic} (h : t.desk.flight = none) : t.waiters = [] := by
  simp [waiters, h]

theorem owes_iff {t : Traffic} {n : Nat} : t.owes n = true ↔ n ∈ t.waiters := by
  unfold owes waiters
  cases t.desk.flight <;> simp

theorem waits_congr {t t' : Traffic} {n : Nat} (h : t'.callers[n]? = t.callers[n]?) :
    t'.waits n = t.waits n := by
  unfold waits
  rw [h]

theorem waits_of_caller {t : Traffic} {n : Nat} {c : Caller} (h : t.callers[n]? = some c) :
    t.waits n = c.isWaiting := by
  simp [waits, h]

/-- The callers that wait and the list of the flight agree. -/
structure Attached (t : Traffic) : Prop where
  nodup : t.waiters.Nodup
  /-- Whoever waits is on the list. -/
  listed : ∀ n, t.waits n = true → n ∈ t.waiters
  /-- Whoever is on the list waits, or has gone away. -/
  waiting : ∀ n ∈ t.waiters, t.waits n = true ∨ t.callers[n]? = some .cancelled
  /-- Whoever waits knows whether the flight is superseded. -/
  superseded : ∀ (n : Nat) refused superseded flight,
    t.callers[n]? = some (.waiting refused superseded) → t.desk.flight = some flight →
    superseded = flight.generation.isOlder refused

/-- Whoever waits, waits for a flight. -/
theorem Attached.flight_of_waits {t : Traffic} (h : t.Attached) {n : Nat}
    (hn : t.waits n = true) : ∃ flight, t.desk.flight = some flight ∧ n ∈ flight.waiters := by
  have hmem := h.listed n hn
  cases hflight : t.desk.flight with
  | none =>
    rw [waiters_of_none hflight] at hmem
    cases hmem
  | some flight =>
    rw [waiters_of_some hflight] at hmem
    exact ⟨flight, rfl, hmem⟩

/-- So it finds somebody to wake it whenever it runs, and goes on waiting. -/
theorem Attached.turn_of_waits {t : Traffic} (h : t.Attached) {n : Nat}
    (hn : t.waits n = true) : t.turn n = .rest := by
  obtain ⟨refused, superseded, hc⟩ := waits_iff.mp hn
  have howes := owes_iff.mpr (h.listed n hn)
  simp only [turn, hc, howes, if_true]

/-! ### A caller's turn -/

/-- What a caller is at, and what it does when it runs. -/
inductive Turned (t : Traffic) (n : Nat) : Turn → Prop where
  /-- It waits, or has returned, or was cancelled, or there is no such caller. -/
  | rest (idle : ∀ c, t.callers[n]? = some c →
      c.isWaiting = true ∨ c = .cancelled ∨ ∃ outcome, c = .finished outcome) : Turned t n .rest
  | ask {refused : Generation} (caller : t.callers[n]? = some (.asking refused)) :
      Turned t n (.ask refused)
  | askAgain {refused : Generation} {outcome : Outcome}
      (caller : t.callers[n]? = some (.woken refused true outcome)) : Turned t n (.ask refused)
  | finish {refused : Generation} {outcome : Outcome}
      (caller : t.callers[n]? = some (.woken refused false outcome)) :
      Turned t n (.finish outcome)

/-- There is no other case; in particular nobody who waits finds itself
abandoned. -/
theorem turn_spec {t : Traffic} (h : t.Attached) (n : Nat) : Turned t n (t.turn n) := by
  by_cases hwaits : t.waits n = true
  · rw [h.turn_of_waits hwaits]
    refine .rest fun c hc => Or.inl ?_
    rwa [waits_of_caller hc] at hwaits
  · unfold turn
    cases hn : t.callers[n]? with
    | none => exact .rest (by simp [hn])
    | some c =>
      cases c with
      | asking refused => exact .ask hn
      | waiting refused superseded => exact absurd (waits_iff.mpr ⟨_, _, hn⟩) hwaits
      | woken refused superseded outcome =>
        cases superseded with
        | true => exact .askAgain hn
        | false => exact .finish hn
      | finished outcome => exact .rest (by simp [hn])
      | cancelled => exact .rest (by simp [hn])

/-- A caller that does something when it runs is there and is not on the list. -/
theorem Attached.not_listed {t : Traffic} (h : t.Attached) {n : Nat} (hturn : t.turn n ≠ .rest) :
    n ∉ t.waiters ∧ t.waits n = false ∧ ∃ c, t.callers[n]? = some c := by
  have hspec := turn_spec h n
  -- it is asking or was woken; either way it neither waits nor is cancelled
  have hawake : ∃ c, t.callers[n]? = some c ∧ c.isWaiting = false ∧ c ≠ .cancelled := by
    revert hturn hspec
    generalize t.turn n = turn
    intro hturn hspec
    cases hspec with
    | rest idle => exact absurd rfl hturn
    | ask caller => exact ⟨_, caller, rfl, nofun⟩
    | askAgain caller => exact ⟨_, caller, rfl, nofun⟩
    | finish caller => exact ⟨_, caller, rfl, nofun⟩
  obtain ⟨c, hc, hwaiting, hcancelled⟩ := hawake
  have hwaits : t.waits n = false := (waits_of_caller hc).trans hwaiting
  refine ⟨fun hmem => ?_, hwaits, c, hc⟩
  rcases h.waiting n hmem with hw | hgone
  · rw [hwaits] at hw
    cases hw
  · rw [hgone] at hc
    exact hcancelled (Option.some.inj hc).symm

/-! ### Every event keeps the callers attached -/

namespace Attached

variable {t t' : Traffic}

theorem start (s : Session) : (Traffic.start s).Attached where
  nodup := List.nodup_nil
  listed n hn := by simp [waits, Traffic.start] at hn
  waiting n hn := by cases hn
  superseded n _ _ _ hn := by simp [Traffic.start] at hn

/-- Nothing of this concerns the session. -/
theorem congr (h : t.Attached) (hflight : t'.desk.flight = t.desk.flight)
    (hcallers : t'.callers = t.callers) : t'.Attached := by
  have hwaiters : t'.waiters = t.waiters := by simp only [waiters, hflight]
  have hwaits : ∀ n, t'.waits n = t.waits n := fun n => waits_congr (by rw [hcallers])
  refine ⟨by rw [hwaiters]; exact h.nodup, fun n hn => ?_, fun n hn => ?_, ?_⟩
  · rw [hwaiters]
    exact h.listed n (by rwa [hwaits] at hn)
  · rw [hwaits, hcallers]
    exact h.waiting n (hwaiters ▸ hn)
  · rw [hcallers, hflight]
    exact h.superseded

/-- Only one caller changes, and may come to the end of the list.  Whoever else
waits goes on waiting for a flight of the same generation, so only the one that
changes has to be looked at. -/
theorem of_one (h : t.Attached) (n : Nat)
    (hother : ∀ m, m ≠ n → t'.callers[m]? = t.callers[m]?)
    (hlist : t'.waiters = t.waiters ∨ n ∉ t.waiters ∧ t'.waiters = t.waiters ++ [n])
    (hgeneration : ∀ old flight, t.desk.flight = some old → t'.desk.flight = some flight →
      flight.generation = old.generation)
    (hlisted : t'.waits n = true → n ∈ t'.waiters)
    (hwaiting : n ∈ t'.waiters → t'.waits n = true ∨ t'.callers[n]? = some .cancelled)
    (hsuperseded : ∀ refused superseded flight,
      t'.callers[n]? = some (.waiting refused superseded) → t'.desk.flight = some flight →
      superseded = flight.generation.isOlder refused) : t'.Attached := by
  have hmem : ∀ m, m ≠ n → (m ∈ t'.waiters ↔ m ∈ t.waiters) := by
    intro m hm
    rcases hlist with hsame | ⟨-, hgrown⟩
    · rw [hsame]
    · rw [hgrown, List.mem_append, List.mem_singleton]
      exact or_iff_left hm
  refine ⟨?_, fun m hm => ?_, fun m hm => ?_, fun m refused superseded flight hm hflight => ?_⟩
  · rcases hlist with hsame | ⟨hn, hgrown⟩
    · rw [hsame]
      exact h.nodup
    · rw [hgrown, List.nodup_append]
      refine ⟨h.nodup, List.pairwise_singleton _ n, fun m hm m' hm' heq => ?_⟩
      rw [List.mem_singleton.mp hm'] at heq
      exact hn (heq ▸ hm)
  · by_cases hmn : m = n
    · subst hmn
      exact hlisted hm
    · rw [waits_congr (hother m hmn)] at hm
      exact (hmem m hmn).mpr (h.listed m hm)
  · by_cases hmn : m = n
    · subst hmn
      exact hwaiting hm
    · rw [waits_congr (hother m hmn), hother m hmn]
      exact h.waiting m ((hmem m hmn).mp hm)
  · by_cases hmn : m = n
    · subst hmn
      exact hsuperseded refused superseded flight hm hflight
    · -- whoever waited before knows its flight already
      rw [hother m hmn] at hm
      obtain ⟨old, hold, -⟩ := h.flight_of_waits (waits_iff.mpr ⟨_, _, hm⟩)
      rw [hgeneration old flight hold hflight]
      exact h.superseded m refused superseded old hm hold

/-- A caller that is not on the list becomes one that does not wait. -/
theorem set_of_not_listed (h : t.Attached) (hflight : t'.desk.flight = t.desk.flight) {n : Nat}
    {c : Caller} (hn : n ∉ t.waiters) (hc : c.isWaiting = false)
    (hcallers : ∀ m, t'.callers[m]? = if m = n then some c else t.callers[m]?) :
    t'.Attached := by
  have hwaiters : t'.waiters = t.waiters := by simp only [waiters, hflight]
  have hnow : t'.callers[n]? = some c := by rw [hcallers, if_pos rfl]
  have hself : t'.waits n = false := (waits_of_caller hnow).trans hc
  refine h.of_one n (fun m hm => by rw [hcallers, if_neg hm]) (Or.inl hwaiters) ?_ ?_ ?_ ?_
  · intro old flight hold hnew
    rw [hflight, hold] at hnew
    cases hnew
    rfl
  · intro hwaits
    rw [hself] at hwaits
    cases hwaits
  · intro hmem
    exact absurd (hwaiters ▸ hmem) hn
  · intro refused superseded flight hwaits
    rw [waits_of_caller hwaits] at hself
    cases hself

theorem spawn (h : t.Attached) (refused : Generation) : (t.spawn refused).Attached := by
  have hn : t.callers.length ∉ t.waiters := fun hmem => by
    rcases h.waiting _ hmem with hw | hgone
    · simp [waits] at hw
    · simp at hgone
  exact h.set_of_not_listed rfl hn (c := .asking refused) rfl (spawn_callers t refused)

theorem finish (h : t.Attached) {n : Nat} (hturn : t.turn n ≠ .rest) (outcome : Outcome) :
    ((t.rested n).finish n outcome).Attached := by
  obtain ⟨hlisted, -, c, hc⟩ := h.not_listed hturn
  exact h.set_of_not_listed rfl hlisted (c := .finished outcome) rfl (getElem?_set_of_some hc)

/-- A caller whose turn it is comes to the end of the list, and waits. -/
theorem attach (h : t.Attached) {n : Nat} {refused : Generation} (hturn : t.turn n = .ask refused)
    {flight : Flight} (hflight : t'.desk.flight = some flight)
    (hwaiters : flight.waiters = t.waiters ++ [n])
    (hold : ∀ old, t.desk.flight = some old → old.generation = flight.generation)
    (hcallers : t'.callers =
      t.callers.set n (.waiting refused (flight.generation.isOlder refused))) :
    t'.Attached := by
  obtain ⟨hlisted, -, c, hc⟩ := h.not_listed (n := n) (by rw [hturn]; nofun)
  have hget : ∀ m, t'.callers[m]? =
      if m = n then some (.waiting refused (flight.generation.isOlder refused))
      else t.callers[m]? := by
    intro m
    rw [hcallers]
    exact getElem?_set_of_some hc m
  have hnow := (hget n).trans (if_pos rfl)
  have hlist : t'.waiters = t.waiters ++ [n] := (waiters_of_some hflight).trans hwaiters
  refine h.of_one n (fun m hm => by rw [hget, if_neg hm]) (Or.inr ⟨hlisted, hlist⟩) ?_ ?_ ?_ ?_
  · intro old flight' hold' hflight'
    rw [hflight] at hflight'
    cases hflight'
    exact (hold old hold').symm
  · intro _
    rw [hlist]
    exact List.mem_append_right _ (List.mem_singleton.mpr rfl)
  · intro _
    exact Or.inl (waits_of_caller hnow)
  · intro refused' superseded flight' hwaits hflight'
    rw [hnow] at hwaits
    rw [hflight] at hflight'
    cases hwaits
    cases hflight'
    rfl

theorem ran (h : t.Attached) {n : Nat} (hran : Ran t n t') : t'.Attached := by
  cases hran with
  | rest turn => exact h.congr rfl rfl
  | finish turn => exact h.finish (by rw [turn]; nofun) _
  | answer turn asked => exact h.finish (by rw [turn]; nofun) _
  | @join refused flight turn state under =>
    refine h.attach turn rfl ?_ ?_ rfl
    · rw [waiters_of_some under]
    · intro old hold
      rw [under] at hold
      cases hold
      rfl
  | @launch refused c turn idle state current =>
    refine h.attach turn rfl ?_ ?_ ?_
    · rw [waiters_of_none idle]
      rfl
    · intro old hold
      rw [idle] at hold
      cases hold
    · -- nothing is superseded by a flight of its own generation
      have hown : refused.isOlder refused = false :=
        Generation.isOlder_eq_false.mpr (Nat.le_refl _)
      rw [hown]

theorem settled (h : t.Attached) {place : Nat} {result : Except CallError Credentials}
    {sent : List (Nat × Outcome)} (hsettled : Settled t place result sent t') :
    t'.Attached := by
  cases hsettled with
  | nothing none => exact h
  | @landed call flight outcome s call_eq under generation landed =>
    have hnone : ∀ n, waits (flight.waiters.foldl (wake outcome)
        { t with calls := [], desk := ⟨s, none⟩ }) n = false := by
      intro n
      unfold waits
      rw [wakeAll_callers]
      by_cases hmem : n ∈ flight.waiters
      · rw [if_pos hmem]
        cases hn : t.callers[n]? with
        | none => rfl
        | some c => cases c <;> rfl
      · rw [if_neg hmem]
        have := mt (h.listed n) (by rwa [waiters_of_some under])
        exact Bool.eq_false_iff.mpr this
    have hlist : waiters (flight.waiters.foldl (wake outcome)
        { t with calls := [], desk := ⟨s, none⟩ }) = [] :=
      waiters_of_none (by rw [wakeAll_desk])
    refine ⟨by rw [hlist]; exact List.nodup_nil, fun n hn => ?_, fun n hn => ?_, ?_⟩
    · rw [hnone] at hn
      cases hn
    · rw [hlist] at hn
      cases hn
    · intro n refused superseded flight' hn
      have := waits_iff.mpr ⟨refused, superseded, hn⟩
      rw [hnone] at this
      cases this

theorem cancel (h : t.Attached) (n : Nat) : (t.cancel n).Attached := by
  have hwaiters : (t.cancel n).waiters = t.waiters := by simp only [waiters, cancel_desk]
  rcases cancel_callers t n with hsame | hgone
  · exact h.congr (by rw [cancel_desk]) hsame
  · -- only `n` changes, and it ceases to wait where it stands on the list
    have hself : ∀ c, (t.cancel n).callers[n]? = some c → c = .cancelled := fun c hc => by
      rw [hgone, List.getElem?_set_self'] at hc
      cases hn : t.callers[n]? with
      | none => simp [hn] at hc
      | some old => simpa [hn] using hc.symm
    refine h.of_one n (fun m hm => by rw [hgone, List.getElem?_set_ne (Ne.symm hm)])
      (Or.inl hwaiters) ?_ ?_ ?_ ?_
    · intro old flight hold hflight
      rw [cancel_desk, hold] at hflight
      cases hflight
      rfl
    · intro hwaits
      obtain ⟨refused, superseded, hc⟩ := waits_iff.mp hwaits
      cases hself _ hc
    · intro hmem
      have hthere : n < t.callers.length := by
        rcases h.waiting n (hwaiters ▸ hmem) with hwaits | hc
        · obtain ⟨refused, superseded, hc⟩ := waits_iff.mp hwaits
          exact (List.getElem?_eq_some_iff.mp hc).1
        · exact (List.getElem?_eq_some_iff.mp hc).1
      exact Or.inr (by rw [hgone]; simp [hthere])
    · intro refused superseded flight hwaits
      cases hself _ hwaits

/-- **Step.**  Whoever waits is on the list of the flight, and whoever is on it waits or has gone,
also after an event. -/
theorem step (hs : t.Sound) (h : t.Attached) (e : Event) : (t.step e).Attached := by
  cases e with
  | spawn refused => exact h.spawn refused
  | run n => exact h.ran (run_spec hs.desk n)
  | settle place ending => exact h.settled (settleAt_spec hs place ending.result)
  | cancel n => exact h.cancel n
  | signIn c => exact h.congr rfl rfl
  | signOut => exact h.congr rfl rfl
  | claimPrompt => exact h.congr rfl rfl
  | store store => exact h.congr rfl rfl

/-- **Run.**  At no time does anybody wait without being on the list. -/
theorem after (hs : t.Sound) (h : t.Attached) (es : List Event) : (t.after es).Attached :=
  (after_induction (P := fun t => t.Sound ∧ t.Attached)
    (fun _ e ht => ⟨ht.1.step e, ht.2.step ht.1 e⟩) ⟨hs, h⟩ es).2

end Attached

/-! ### What becomes of a caller -/

/-- What is sent in an event, and to whom. -/
def sent (t : Traffic) : Event → List (Nat × Outcome)
  | .settle place ending => t.sends place ending.result
  | _ => []

/-- How caller `n` comes to be what it is after an event. -/
inductive Fate (t : Traffic) (n : Nat) : Event → Caller → Prop where
  /-- The event does not concern it. -/
  | same {e : Event} {c : Caller} (caller : t.callers[n]? = some c) : Fate t n e c
  /-- It is the caller that came. -/
  | spawned {refused : Generation} (last : n = t.callers.length) :
      Fate t n (.spawn refused) (.asking refused)
  /-- It asked, and was told to wait. -/
  | waits {refused : Generation} {superseded : Bool} (turn : t.turn n = .ask refused) :
      Fate t n (.run n) (.waiting refused superseded)
  /-- It asked, and returned with the answer. -/
  | answered {refused : Generation} {outcome : Outcome} (turn : t.turn n = .ask refused)
      (asked : Asked t.desk n refused (.answered outcome) t.desk)
      (desk : (t.run n).desk = t.desk) : Fate t n (.run n) (.finished outcome)
  /-- It returned what it was woken with. -/
  | finished {outcome : Outcome} (turn : t.turn n = .finish outcome) :
      Fate t n (.run n) (.finished outcome)
  /-- It waited, and the flight it waited for landed. -/
  | woken {place : Nat} {ending : Ending} {refused : Generation} {superseded : Bool}
      {flight : Flight} {outcome : Outcome}
      (caller : t.callers[n]? = some (.waiting refused superseded))
      (under : t.desk.flight = some flight)
      (sent : t.sends place ending.result = flight.waiters.map (·, outcome))
      (landed : Landed t.desk.session flight.generation ending.result outcome
        (t.settleAt place ending.result).desk.session) :
      Fate t n (.settle place ending) (.woken refused superseded outcome)
  | cancelled : Fate t n (.cancel n) .cancelled

theorem fate_of_set {t t' : Traffic} {n m : Nat} {c c' : Caller} {e : Event} {old : Caller}
    (hold : t.callers[m]? = some old) (hcallers : t'.callers = t.callers.set m c')
    (hc : t'.callers[n]? = some c) (hfate : n = m → Fate t n e c') : Fate t n e c := by
  rw [hcallers, getElem?_set_of_some hold] at hc
  by_cases hn : n = m
  · rw [if_pos hn] at hc
    cases hc
    exact hfate hn
  · rw [if_neg hn] at hc
    exact .same hc

theorem Ran.fate {t t' : Traffic} (h : t.Attached) {n m : Nat} (hran : Ran t m t') {c : Caller}
    (hrun : t.run m = t') (hc : t'.callers[n]? = some c) : Fate t n (.run m) c := by
  cases hran with
  | rest turn => exact .same hc
  | finish turn =>
    obtain ⟨-, -, old, hold⟩ := h.not_listed (n := m) (by rw [turn]; nofun)
    exact fate_of_set hold rfl hc fun hn => by subst hn; exact .finished turn
  | answer turn asked =>
    obtain ⟨-, -, old, hold⟩ := h.not_listed (n := m) (by rw [turn]; nofun)
    exact fate_of_set hold rfl hc fun hn => by
      subst hn
      exact .answered turn asked (by rw [hrun]; rfl)
  | join turn state under =>
    obtain ⟨-, -, old, hold⟩ := h.not_listed (n := m) (by rw [turn]; nofun)
    exact fate_of_set hold rfl hc fun hn => by subst hn; exact .waits turn
  | launch turn idle state current =>
    obtain ⟨-, -, old, hold⟩ := h.not_listed (n := m) (by rw [turn]; nofun)
    exact fate_of_set hold rfl hc fun hn => by subst hn; exact .waits turn

theorem Settled.fate {t t' : Traffic} {n place : Nat} {ending : Ending}
    {sent : List (Nat × Outcome)} (h : Settled t place ending.result sent t') {c : Caller}
    (hsent : t.sends place ending.result = sent) (hsettle : t.settleAt place ending.result = t')
    (hc : t'.callers[n]? = some c) : Fate t n (.settle place ending) c := by
  cases h with
  | nothing none => exact .same hc
  | landed call_eq under generation landed =>
    rw [wakeAll_callers] at hc
    split at hc
    · obtain ⟨old, hold, hroused⟩ := Option.map_eq_some_iff.mp hc
      cases old with
      | waiting refused superseded =>
        cases hroused
        refine .woken hold under hsent ?_
        rw [hsettle, wakeAll_desk]
        exact landed
      | _ => cases hroused; exact .same hold
    · exact .same hc

/-- **There is nothing else that can become of a caller.** -/
theorem fate_spec {t : Traffic} (hs : t.Sound) (h : t.Attached) {n : Nat} (e : Event) {c : Caller}
    (hc : (t.step e).callers[n]? = some c) : Fate t n e c := by
  cases e with
  | spawn refused =>
    have hc' : (t.spawn refused).callers[n]? = some c := hc
    rw [spawn_callers] at hc'
    split at hc'
    · cases hc'
      exact .spawned ‹_›
    · exact .same hc'
  | run m => exact (run_spec hs.desk m).fate h rfl hc
  | settle place ending => exact (settleAt_spec hs place ending.result).fate rfl rfl hc
  | cancel m =>
    have hc' : (t.cancel m).callers[n]? = some c := hc
    rcases cancel_callers t m with hsame | hgone
    · exact .same (hsame ▸ hc')
    · by_cases hn : n = m
      · subst hn
        have hlt : n < t.callers.length := by
          have := (List.getElem?_eq_some_iff.mp hc').1
          rwa [hgone, List.length_set] at this
        rw [hgone, List.getElem?_set_self hlt] at hc'
        cases hc'
        exact .cancelled
      · rw [hgone, List.getElem?_set_ne (Ne.symm hn)] at hc'
        exact .same hc'
  | _ => exact .same hc

end Traffic

end SessionKeeper
