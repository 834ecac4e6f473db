import SessionKeeper.Session.Basic

/-! # How the parts of a session hang together

A session keeps its state, its credentials and the newest generation apart.
Two facts tie them together, and every operation keeps both:

* there are credentials exactly while somebody is signed in, and they stand
  under the generation that the state names (`Coherent.current_generation`);
* that generation is the newest one handed out (`Coherent.newest`).

Beside this stands what happens over time.  Generations are only ever added,
and whatever comes into use later comes under a generation that is new
(`Follows`).  So a generation names one pair of credentials for good.

Core Lean 4 only; no Mathlib. -/

namespace SessionKeeper

namespace Session

/-! ### Generations handed out -/

/-- How many generations a session has handed out.  They count up from 1, so
this is also the number of the newest one. -/
def issued (s : Session) : Nat :=
  match s.lastIssued with
  | some g => g.number
  | none => 0

/-- A generation that a session has handed out. -/
def HasIssued (s : Session) (g : Generation) : Prop :=
  Generation.first ≤ g ∧ g.number ≤ s.issued

theorem nextGeneration_number (s : Session) : s.nextGeneration.number = s.issued + 1 := by
  unfold nextGeneration issued
  cases s.lastIssued <;> rfl

/-! ### What each operation leaves behind

One lemma for each part of a session that an operation touches.  Whoever
reasons about an operation uses these and does not unfold it. -/

section operations

variable (s : Session) (c : Credentials) (state : State) (store : Store)

@[simp] theorem publish_state : (s.publish state).state = state := rfl

@[simp] theorem publish_current : (s.publish state).current = s.current := rfl

@[simp] theorem publish_issued : (s.publish state).issued = s.issued := rfl

@[simp] theorem publish_store : (s.publish state).store = s.store := rfl

@[simp] theorem signIn_state : (s.signIn c).2.state = .loggedIn s.nextGeneration := rfl

@[simp] theorem signIn_current : (s.signIn c).2.current = some ⟨s.nextGeneration, c⟩ := rfl

@[simp] theorem signIn_issued : (s.signIn c).2.issued = s.issued + 1 :=
  s.nextGeneration_number

@[simp] theorem signIn_store : (s.signIn c).2.store = s.store.attempt (s.store.save c) := rfl

@[simp] theorem signOut_state : s.signOut.2.state = .loggedOut := by
  unfold signOut isLoggedIn
  cases h : s.state <;> simp [State.isLoggedIn, ended, cleared, forget, h]

@[simp] theorem signOut_current : s.signOut.2.current = none := by
  unfold signOut
  split <;> rfl

@[simp] theorem signOut_issued : s.signOut.2.issued = s.issued := by
  unfold signOut
  split <;> rfl

@[simp] theorem signOut_store : s.signOut.2.store = s.store.attempt s.store.clear := by
  unfold signOut
  split <;> rfl

@[simp] theorem claimPrompt_state : s.claimPrompt.2.state = s.state := by
  unfold claimPrompt
  split <;> rfl

@[simp] theorem claimPrompt_current : s.claimPrompt.2.current = s.current := by
  unfold claimPrompt
  split <;> rfl

@[simp] theorem claimPrompt_issued : s.claimPrompt.2.issued = s.issued := by
  unfold claimPrompt
  split <;> rfl

@[simp] theorem claimPrompt_store : s.claimPrompt.2.store = s.store := by
  unfold claimPrompt
  split <;> rfl

end operations

/-- An idle session begins to replace its credentials when it is asked to. -/
theorem startRefresh_of_loggedIn {s : Session} {g : Generation} (h : s.state = .loggedIn g) :
    s.startRefresh = (some g, s.publish (.refreshing g)) := by
  simp [startRefresh, h]

@[simp] theorem replaced_state (s : Session) (c : Credentials) :
    (s.replaced c).state = .loggedIn s.nextGeneration := rfl

@[simp] theorem replaced_current (s : Session) (c : Credentials) :
    (s.replaced c).current = some ⟨s.nextGeneration, s.replacement c⟩ := rfl

@[simp] theorem replaced_issued (s : Session) (c : Credentials) :
    (s.replaced c).issued = s.issued + 1 :=
  s.nextGeneration_number

@[simp] theorem replaced_store (s : Session) (c : Credentials) :
    (s.replaced c).store = s.store.attempt (s.store.save (s.replacement c)) := rfl

@[simp] theorem ended_state (s : Session) : s.ended.state = .loggedOut := rfl

@[simp] theorem ended_current (s : Session) : s.ended.current = none := rfl

@[simp] theorem ended_issued (s : Session) : s.ended.issued = s.issued := rfl

@[simp] theorem ended_store (s : Session) : s.ended.store = s.store.attempt s.store.clear := rfl

theorem finishRefresh_of_refreshing {s : Session} {g : Generation} (c : Credentials)
    (h : s.state = .refreshing g) :
    s.finishRefresh g c = (some ⟨s.nextGeneration, s.replacement c⟩, s.replaced c) := by
  rw [finishRefresh, if_pos h]

theorem finishRefresh_of_ne {s : Session} {g : Generation} (c : Credentials)
    (h : s.state ≠ .refreshing g) : s.finishRefresh g c = (none, s) := by
  rw [finishRefresh, if_neg h]

theorem failRefresh_of_refreshing {s : Session} {g : Generation} (h : s.state = .refreshing g) :
    s.failRefresh g = (true, s.ended) := by
  rw [failRefresh, if_pos h]

theorem failRefresh_of_ne {s : Session} {g : Generation} (h : s.state ≠ .refreshing g) :
    s.failRefresh g = (false, s) := by
  rw [failRefresh, if_neg h]

/-! ### Coherence -/

/-- The parts of a session agree. -/
structure Coherent (s : Session) : Prop where
  /-- The credentials in use are those of the state, if it has any. -/
  current_generation : s.current.map (·.generation) = s.state.generation?
  /-- What is in use was handed out last. -/
  newest : ∀ g, s.state.generation? = some g → g.number = s.issued

namespace Coherent

variable {s s' : Session}

theorem current_of_loggedIn (h : s.Coherent) {g : Generation} (hs : s.state = .loggedIn g) :
    ∃ c, s.current = some ⟨g, c⟩ := by
  have hg := h.current_generation
  rw [hs] at hg
  obtain ⟨⟨g', c⟩, hc, rfl⟩ := Option.map_eq_some_iff.mp hg
  exact ⟨c, hc⟩

theorem current_of_loggedOut (h : s.Coherent) (hs : s.state = .loggedOut) :
    s.current = none := by
  have hg := h.current_generation
  rw [hs] at hg
  exact Option.map_eq_none_iff.mp hg

/-- Somebody is signed in exactly while there are credentials. -/
theorem isLoggedIn_eq (h : s.Coherent) : s.isLoggedIn = s.current.isSome := by
  have hg := congrArg Option.isSome h.current_generation
  rw [Option.isSome_map] at hg
  rw [hg, isLoggedIn]
  cases s.state <;> rfl

/-- Credentials in use are always the newest. -/
theorem number_of_current (h : s.Coherent) {g : Generation} {c : Credentials}
    (hc : s.current = some ⟨g, c⟩) : g.number = s.issued := by
  have hg := h.current_generation
  rw [hc] at hg
  exact h.newest g hg.symm

/-- While the newest credentials are being replaced nothing else is handed out. -/
theorem number_of_refreshing (h : s.Coherent) {g : Generation} (hs : s.state = .refreshing g) :
    g.number = s.issued := by
  apply h.newest
  rw [hs]
  rfl

/-- The generation after that of the credentials in use is the next one. -/
theorem nextGeneration_of_current (h : s.Coherent) {g : Generation} {c : Credentials}
    (hc : s.current = some ⟨g, c⟩) : s.nextGeneration = g.next := by
  have hnumber := h.number_of_current hc
  have hnext := s.nextGeneration_number
  rw [← hnumber] at hnext
  exact congrArg Generation.mk hnext

/-- Coherence depends on the generation of the state, the credentials and the
generations handed out only. -/
theorem congr (h : s.Coherent) (hstate : s'.state.generation? = s.state.generation?)
    (hcurrent : s'.current = s.current) (hissued : s'.issued = s.issued) : s'.Coherent where
  current_generation := by rw [hcurrent, hstate]; exact h.current_generation
  newest g hg := by rw [hissued]; exact h.newest g (hstate ▸ hg)

theorem restore (store : Store) : (Session.restore store).Coherent := by
  unfold Session.restore
  split
  · constructor
    · rfl
    · intro g hg
      cases hg
      rfl
  · constructor
    · rfl
    · intro g hg
      cases hg

theorem signIn (s : Session) (c : Credentials) : (s.signIn c).2.Coherent where
  current_generation := rfl
  newest g hg := by
    cases hg
    rw [signIn_issued, nextGeneration_number]

theorem signOut (s : Session) : s.signOut.2.Coherent where
  current_generation := by simp [State.generation?]
  newest g hg := by simp [State.generation?] at hg

theorem claimPrompt (h : s.Coherent) : s.claimPrompt.2.Coherent :=
  h.congr (by simp) (by simp) (by simp)

theorem startRefresh (h : s.Coherent) {g : Generation} (hs : s.state = .loggedIn g) :
    (s.publish (.refreshing g)).Coherent :=
  h.congr (by rw [hs]; rfl) rfl rfl

theorem replaced (s : Session) (c : Credentials) : (s.replaced c).Coherent where
  current_generation := rfl
  newest g hg := by
    cases hg
    rw [replaced_issued, nextGeneration_number]

theorem ended (s : Session) : s.ended.Coherent where
  current_generation := rfl
  newest g hg := by cases hg

end Coherent

/-! ### Time -/

/-- A session that `s` may have become.  Generations were only added, and all
that was not there before is new: credentials that come into use, and a
generation that comes to be idle, were not handed out before. -/
structure Follows (s s' : Session) : Prop where
  issued_le : s.issued ≤ s'.issued
  fresh : ∀ snapshot, s'.current = some snapshot →
    s.current = some snapshot ∨ s.issued < snapshot.generation.number
  /-- In particular a generation is never idle again once it is replaced. -/
  idle : ∀ g, s'.state = .loggedIn g → s.state = .loggedIn g ∨ s.issued < g.number

namespace Follows

variable {s s' s'' : Session}

theorem refl (s : Session) : s.Follows s :=
  ⟨Nat.le_refl _, fun _ h => Or.inl h, fun _ h => Or.inl h⟩

theorem trans (h : s.Follows s') (h' : s'.Follows s'') : s.Follows s'' where
  issued_le := Nat.le_trans h.issued_le h'.issued_le
  fresh snapshot hs := by
    rcases h'.fresh snapshot hs with hold | hnew
    · exact h.fresh snapshot hold
    · exact Or.inr (Nat.lt_of_le_of_lt h.issued_le hnew)
  idle g hs := by
    rcases h'.idle g hs with hold | hnew
    · exact h.idle g hold
    · exact Or.inr (Nat.lt_of_le_of_lt h.issued_le hnew)

/-- The credentials stay as they are, and so does an idle state. -/
theorem of_same (hissued : s'.issued = s.issued) (hcurrent : s'.current = s.current)
    (hidle : ∀ g, s'.state = .loggedIn g → s.state = .loggedIn g) : s.Follows s' where
  issued_le := Nat.le_of_eq hissued.symm
  fresh _ hs := Or.inl (hcurrent ▸ hs)
  idle g hs := Or.inl (hidle g hs)

/-- The session is over. -/
theorem of_loggedOut (hissued : s'.issued = s.issued) (hcurrent : s'.current = none)
    (hstate : s'.state = .loggedOut) : s.Follows s' where
  issued_le := Nat.le_of_eq hissued.symm
  fresh _ hs := by rw [hcurrent] at hs; cases hs
  idle _ hs := by rw [hstate] at hs; cases hs

/-- New credentials come into use under the next generation. -/
theorem of_next {c : Credentials} (hissued : s'.issued = s.issued + 1)
    (hcurrent : s'.current = some ⟨s.nextGeneration, c⟩)
    (hstate : s'.state = .loggedIn s.nextGeneration) : s.Follows s' := by
  have hlt : s.issued < s.nextGeneration.number := by
    rw [s.nextGeneration_number]
    exact Nat.lt_succ_self _
  refine ⟨by omega, fun snapshot hs => ?_, fun g hs => ?_⟩
  · rw [hcurrent] at hs
    cases hs
    exact Or.inr hlt
  · rw [hstate] at hs
    cases hs
    exact Or.inr hlt

theorem signIn (s : Session) (c : Credentials) : s.Follows (s.signIn c).2 :=
  of_next (signIn_issued s c) (signIn_current s c) (signIn_state s c)

theorem signOut (s : Session) : s.Follows s.signOut.2 :=
  of_loggedOut (by simp) (by simp) (by simp)

theorem claimPrompt (s : Session) : s.Follows s.claimPrompt.2 :=
  of_same (by simp) (by simp) (by simp)

theorem startRefresh (s : Session) (g : Generation) : s.Follows (s.publish (.refreshing g)) :=
  of_same rfl rfl (by simp)

theorem replaced (s : Session) (c : Credentials) : s.Follows (s.replaced c) :=
  of_next (replaced_issued s c) (replaced_current s c) (replaced_state s c)

theorem ended (s : Session) : s.Follows s.ended :=
  of_loggedOut rfl rfl rfl

/-- What was handed out stays handed out. -/
theorem hasIssued (h : s.Follows s') {g : Generation} (hg : s.HasIssued g) : s'.HasIssued g :=
  ⟨hg.1, Nat.le_trans hg.2 h.issued_le⟩

/-- A generation in use earlier and later names the same credentials. -/
theorem credentials_eq (h : s.Follows s') (hs : s.Coherent) {g : Generation}
    {c c' : Credentials} (hc : s.current = some ⟨g, c⟩) (hc' : s'.current = some ⟨g, c'⟩) :
    c = c' := by
  rcases h.fresh _ hc' with hold | hnew
  · rw [hc] at hold
    cases hold
    rfl
  · -- the generation was the newest already, so it cannot be new
    have := hs.number_of_current hc
    dsimp only at hnew
    omega

end Follows

end Session

end SessionKeeper
