import SessionKeeper.Proofs.Session.Operation

/-! # A generation is replaced once

A session begins to replace a generation while it is idle under it, and the replacement
ends, for good or ill, while the session is refreshing it.  Neither state ever comes back:
whatever is in use later has a generation that is new.  So the generations of which the
replacement was begun come one after another, from older to newer, and so do those of which
it has ended (`Session.Behind`).

Whoever reports on a replacement that was never begun, has ended, or was overtaken by a
sign-in or a sign-out, is not listened to: nothing happens (`Operated.reports`).

No more of Mathlib than the imports bring. -/

namespace SessionKeeper

namespace Session

variable {s s' : Session} {o : Operation} {a : Answer} {g : Generation}

/-! ### Generations that are left behind -/

/-- These generations were handed out, one after another, and all of them before the one
that stands open now, if one does. -/
structure Behind (gs : List Generation) (s : Session) (now : Option Generation) : Prop where
  sorted : gs.Pairwise (· < ·)
  issued : ∀ g ∈ gs, g.number ≤ s.issued
  older : ∀ g ∈ gs, ∀ h, now = some h → g < h

namespace Behind

variable {gs : List Generation} {now now' : Option Generation}

theorem nil (s : Session) (now : Option Generation) : Behind [] s now := by
  refine ⟨.nil, ?_, ?_⟩
  · intro g hg
    cases hg
  · intro g hg
    cases hg

/-- What stands open now stood open before, or is new. -/
theorem stays (h : Behind gs s now) (hfollows : s.Follows s')
    (hnow : ∀ h, now' = some h → now = some h ∨ s.issued < h.number) : Behind gs s' now' := by
  refine ⟨h.sorted, ?_, ?_⟩
  · intro g hg
    exact Nat.le_trans (h.issued g hg) hfollows.issued_le
  · intro g hg h' hh'
    rcases hnow h' hh' with hold | hnew
    · exact h.older g hg h' hold
    · exact Generation.lt_iff.mpr (Nat.lt_of_le_of_lt (h.issued g hg) hnew)

/-- What stood open is left behind as well. -/
theorem closes (h : Behind gs s (some g)) (hfollows : s.Follows s') (hnewest : g.number = s.issued)
    (hnow : ∀ h, now' = some h → s.issued < h.number) : Behind (gs ++ [g]) s' now' := by
  have hstays : Behind gs s' now' := h.stays hfollows fun h' hh' => Or.inr (hnow h' hh')
  refine ⟨?_, ?_, ?_⟩
  · rw [List.pairwise_append]
    refine ⟨h.sorted, List.pairwise_singleton _ g, ?_⟩
    intro old hold g' hg'
    rw [List.mem_singleton.mp hg']
    exact h.older old hold g rfl
  · intro old hold
    rcases List.mem_append.mp hold with hold | hold
    · exact hstays.issued old hold
    · rw [List.mem_singleton.mp hold, hnewest]
      exact hfollows.issued_le
  · intro old hold h' hh'
    rcases List.mem_append.mp hold with hold | hold
    · exact hstays.older old hold h' hh'
    · have hlt := hnow h' hh'
      rw [List.mem_singleton.mp hold, Generation.lt_iff]
      omega

theorem nodup (h : Behind gs s now) : gs.Nodup := by
  apply h.sorted.imp
  intro g h' hlt heq
  rw [heq] at hlt
  exact Nat.lt_irrefl _ hlt

end Behind

/-- A deed leaves no generation behind, or the one that stood open, which was the newest.
`opens` tells which generation stands open in a state. -/
inductive Passes (opens : State → Option Generation) (s s' : Session) :
    Option Generation → Prop where
  | stays (now : ∀ h, opens s'.state = some h → opens s.state = some h ∨ s.issued < h.number) :
      Passes opens s s' none
  | closes {g : Generation} (stood : opens s.state = some g) (newest : g.number = s.issued)
      (now : ∀ h, opens s'.state = some h → s.issued < h.number) : Passes opens s s' (some g)

/-- **Run.**  What the deeds of a history leave behind. -/
theorem behind_after {opens : State → Option Generation} {look : Deed → Option Generation}
    (hstep : ∀ {s s' : Session} {o : Operation} {a : Answer}, s.Coherent → Operated s o a s' →
      Passes opens s s' (look ⟨o, a⟩))
    (hs : s.Coherent) (fails : Nat → Bool) (os : List Operation) :
    Behind ((s.deeds fails os).filterMap look) (s.after fails os)
      (opens (s.after fails os).state) := by
  -- on the history from its end: the last deed leaves at most one generation behind
  induction os using List.reverseRecOn with
  | nil => exact .nil s _
  | append_singleton os o ih =>
    have hcoherent : (s.next fails os).Coherent := (hs.after fails os).congr rfl rfl rfl
    -- whether the next write is made to fail is nothing to the generations
    have hbefore : Behind ((s.deeds fails os).filterMap look) (s.next fails os)
        (opens (s.next fails os).state) := ⟨ih.sorted, ih.issued, ih.older⟩
    have hspec := operate_spec (s.next fails os) o
    have hpasses := hstep hcoherent hspec
    rw [after_concat, deeds_concat, List.filterMap_append]
    generalize hlook : look ⟨o, ((s.next fails os).operate o).1⟩ = left at hpasses
    cases hpasses with
    | stays now =>
      rw [List.filterMap_cons_none hlook, List.filterMap_nil, List.append_nil]
      exact hbefore.stays hspec.follows now
    | closes stood newest now =>
      rw [List.filterMap_cons_some hlook, List.filterMap_nil]
      rw [stood] at hbefore
      exact hbefore.closes hspec.follows newest now

/-! ### The beginning and the end of a replacement -/

/-- The generation that a session is idle under. -/
def State.idle? : State → Option Generation
  | loggedIn g => some g
  | _ => none

theorem State.idle?_eq_some_iff {state : State} : state.idle? = some g ↔ state = .loggedIn g := by
  cases state <;> simp [idle?]

/-- **Step.**  A replacement begins with a session that is idle, and then it is so no
longer. -/
theorem Operated.begins (h : Operated s o a s') (hs : s.Coherent) :
    Passes State.idle? s s' (⟨o, a⟩ : Deed).started? := by
  -- what a session is idle under was so before, or it is new
  have hstays : ∀ h, s'.state.idle? = some h → s.state.idle? = some h ∨ s.issued < h.number := by
    intro h' hh'
    rw [State.idle?_eq_some_iff] at hh' ⊢
    exact h.follows.idle h' hh'
  cases h with
  | started state =>
    -- it was idle under the newest generation, and a session that is refreshing is not idle
    refine .closes (State.idle?_eq_some_iff.mpr state) (hs.newest _ (by rw [state]; rfl)) ?_
    intro h' hh'
    cases hh'
  | ignored ignored => cases ignored <;> exact .stays hstays
  | signedIn | replaced | failed | signedOut | cleared | claimed => exact .stays hstays

/-- The generation that is in use was in use before, or it is new. -/
theorem Follows.generation (h : s.Follows s') (hs : s.Coherent) (hs' : s'.Coherent)
    (hg : s'.state.generation? = some g) : s.state.generation? = some g ∨ s.issued < g.number := by
  rw [← hs'.current_generation, Option.map_eq_some_iff] at hg
  obtain ⟨snapshot, hcurrent, rfl⟩ := hg
  rcases h.fresh snapshot hcurrent with hold | hnew
  · left
    rw [← hs.current_generation, hold]
    rfl
  · exact Or.inr hnew

/-- **Step.**  A replacement ends with a session that is refreshing its generation, and then
this is not in use any longer. -/
theorem Operated.ends (h : Operated s o a s') (hs : s.Coherent) :
    Passes State.generation? s s' (⟨o, a⟩ : Deed).settled? := by
  have hstays : ∀ h, s'.state.generation? = some h →
      s.state.generation? = some h ∨ s.issued < h.number := by
    intro h' hh'
    exact h.follows.generation hs (h.coherent hs) hh'
  cases h with
  -- the two ways for a replacement to end: under a new generation, or under none
  | @replaced g c state =>
    have hgeneration : s.state.generation? = some g := by rw [state]; rfl
    refine .closes hgeneration (hs.newest g hgeneration) ?_
    intro h' hh'
    have hnext : s.nextGeneration = h' := Option.some.inj hh'
    rw [← hnext, nextGeneration_number]
    omega
  | @failed g state =>
    have hgeneration : s.state.generation? = some g := by rw [state]; rfl
    refine .closes hgeneration (hs.newest g hgeneration) ?_
    intro h' hh'
    cases hh'
  | ignored ignored => cases ignored <;> exact .stays hstays
  | signedIn | started | signedOut | cleared | claimed => exact .stays hstays

/-! ### Reports -/

/-- A replacement was begun, and nobody has signed in or out since. -/
def Begun (done : List Deed) (g : Generation) : Prop :=
  ∃ before between, done = before ++ ⟨.startRefresh, .started (some g)⟩ :: between ∧
    ∀ d ∈ between, d.operation.isSign = false

/-- **Step.**  A session is refreshing because that was begun now, or it goes on with it,
and nobody signs in or out. -/
theorem Operated.refreshing (h : Operated s o a s') (hs' : s'.state = .refreshing g) :
    o = .startRefresh ∧ a = .started (some g) ∨ s.state = .refreshing g ∧ o.isSign = false := by
  cases h with
  | started state =>
    cases hs'
    exact Or.inl ⟨rfl, rfl⟩
  | ignored ignored =>
    refine Or.inr ⟨hs', ?_⟩
    cases ignored <;> rfl
  | signedIn | replaced | failed | signedOut => cases hs'
  | cleared state =>
    have hrefreshing : s.state = .refreshing g := hs'
    rw [state] at hrefreshing
    cases hrefreshing
  | claimed state free =>
    have hrefreshing : s.state = .refreshing g := hs'
    rw [state] at hrefreshing
    cases hrefreshing

/-- **Run.**  A session is refreshing only what it has begun to replace, and nobody has
signed in or out since. -/
theorem begun_of_refreshing (hs : ∀ g, s.state ≠ .refreshing g) (fails : Nat → Bool)
    (os : List Operation) (hrefreshing : (s.after fails os).state = .refreshing g) :
    Begun (s.deeds fails os) g := by
  induction os using List.reverseRecOn with
  | nil => exact absurd hrefreshing (hs g)
  | append_singleton os o ih =>
    rw [after_concat] at hrefreshing
    rw [deeds_concat]
    have hspec := operate_spec (s.next fails os) o
    rcases hspec.refreshing hrefreshing with ⟨rfl, hstarted⟩ | ⟨hold, hsign⟩
    · -- it begins here
      refine ⟨s.deeds fails os, [], ?_, ?_⟩
      · rw [hstarted]
      · intro d hd
        cases hd
    · -- it goes on, and there is one more deed in between
      obtain ⟨before, between, hdone, hbetween⟩ := ih hold
      refine ⟨before, between ++ [⟨o, ((s.next fails os).operate o).1⟩], ?_, ?_⟩
      · rw [hdone, List.append_assoc, List.cons_append]
      · intro d hd
        rcases List.mem_append.mp hd with hd | hd
        · exact hbetween d hd
        · rw [List.mem_singleton.mp hd]
          exact hsign

/-- **Step.**  A report ends the replacement that is under way, or it does nothing. -/
theorem Operated.reports (h : Operated s o a s') (hg : o.reports? = some g) :
    (⟨o, a⟩ : Deed).settled? = some g ∧ s.state = .refreshing g ∨
      (⟨o, a⟩ : Deed).settled? = none ∧ s' = s := by
  cases h with
  | replaced state =>
    cases hg
    exact Or.inl ⟨rfl, state⟩
  | failed state =>
    cases hg
    exact Or.inl ⟨rfl, state⟩
  | ignored ignored =>
    refine Or.inr ⟨?_, rfl⟩
    cases ignored <;> rfl
  | signedIn | started | signedOut | cleared | claimed => cases hg

/-! ### The main theorem -/

theorem restore_not_refreshing (store : Store) (g : Generation) :
    (restore store).state ≠ .refreshing g := by
  unfold restore
  split
  · nofun
  · nofun

/-- **A generation is replaced once, and stale news does nothing.**  Restore a session from
any store, and do with it whatever you like, while any of the writes fail.

* The replacement of a generation is begun once at most.
* It ends once at most, for good or ill.
* Whatever is reported next on the replacement of a generation: either it ends with this
  report, and then it was begun and nobody has signed in or out since; or the session is in
  all its parts the same afterwards. -/
theorem refreshed_once (store : Store) (fails : Nat → Bool) (os : List Operation) :
    let s₀ := restore store
    let done := s₀.deeds fails os
    (done.filterMap Deed.started?).Nodup ∧
    (done.filterMap Deed.settled?).Nodup ∧
    ∀ o g, o.reports? = some g →
      let s := s₀.next fails os
      let d : Deed := ⟨o, (s.operate o).1⟩
      d.settled? = some g ∧ Begun done g ∨ d.settled? = none ∧ (s.operate o).2 = s := by
  intro s₀ done
  have hs₀ : s₀.Coherent := .restore store
  have hstarted := behind_after (fun hs h => h.begins hs) hs₀ fails os
  have hsettled := behind_after (fun hs h => h.ends hs) hs₀ fails os
  refine ⟨hstarted.nodup, hsettled.nodup, ?_⟩
  intro o g hg s d
  rcases (operate_spec s o).reports hg with ⟨hended, hrefreshing⟩ | hnothing
  · left
    exact ⟨hended, begun_of_refreshing (restore_not_refreshing store) fails os hrefreshing⟩
  · right
    exact hnothing

end Session

end SessionKeeper
