import SessionKeeper.Proofs.Refresh.Desk
import SessionKeeper.Proofs.Session.Consistency

/-! # Between the looks of a question

Whoever asks for newer credentials looks at the session three times: whether anybody is
signed in, what the credentials are, and when the refresh is begun.  Others may sign in and
out between these looks.  The first two looks agree with each other in all that matters, for
the second one decides alone whether there is anything to refresh.  The third one does not
agree with the second.

* A launch takes its credentials from the second look and its generation from the third
  (`launched_across`).
* They belong together exactly if nobody has signed in or out between these two, or who has
  signed in last has done so with the very same credentials (`launched_own_iff`).
* Otherwise the credentials of an older session are sent to be replaced, and what comes of
  it takes the place of those of the newer session (`launched_stale`).

No more of Mathlib than the imports bring. -/

namespace SessionKeeper

namespace Session

/-! ### Others sign in and out -/

/-- What others leave of session `s` when they sign in and out. -/
inductive Signed (s : Session) (os : List Operation) (s' : Session) : Prop where
  | undisturbed (nobody : os = []) (same : s' = s)
  /-- The last of them has signed in, under a generation that was not there before. -/
  | signedIn {g : Generation} {c : Credentials} (last : os.getLast? = some (.signIn c))
      (state : s'.state = .loggedIn g) (current : s'.current = some ⟨g, c⟩)
      (newer : s.issued < g.number)
  | signedOut (last : os.getLast? = some .signOut) (state : s'.state = .loggedOut)

theorem signed_spec (s : Session) (fails : Nat → Bool) {os : List Operation}
    (hsigns : ∀ o ∈ os, o.isSign = true) : Signed s os (s.after fails os) := by
  induction os using List.reverseRecOn with
  | nil => exact .undisturbed rfl rfl
  | append_singleton os o ih =>
    -- only the last operation matters
    have hlast : (os ++ [o]).getLast? = some o := List.getLast?_concat
    have hsign : o.isSign = true := hsigns o (by simp)
    rw [after_concat]
    cases o with
    | signIn c =>
      obtain ⟨count, hissued, -⟩ := issued_after s fails os
      have hnext : (s.next fails os).issued = s.issued + count := hissued
      have hnumber := (s.next fails os).nextGeneration_number
      exact .signedIn hlast (signIn_state _ c) (signIn_current _ c) (by omega)
    | signOut => exact .signedOut hlast (signOut_state _)
    | _ => cases hsign

end Session

namespace SingleFlight

open Session (Operation)

variable {f desk : SingleFlight} {caller : Nat} {refused g : Generation} {c : Credentials}
  {first second third : Session}

/-- A launch takes its credentials from the second look and its generation from the third. -/
theorem launched_across
    (h : f.askAcross caller refused first second third = (.launched g c, desk)) :
    second.current = some ⟨refused, c⟩ ∧ third.state = .loggedIn g ∧
      desk = ⟨third.publish (.refreshing g), some ⟨g, [caller]⟩⟩ := by
  -- of all ways through the question only the last one launches anything
  unfold askAcross at h
  split at h
  · split at h
    · cases h
    · split at h
      · cases h
      · rename_i snapshot hcurrent
        split at h
        · rename_i hrefused
          by_cases hidle : ∃ g', third.state = .loggedIn g'
          · obtain ⟨g', hg'⟩ := hidle
            rw [Session.startRefresh_of_loggedIn hg'] at h
            cases h
            exact ⟨by rw [hcurrent, ← hrefused], hg', rfl⟩
          · rw [Session.startRefresh_of_ne (not_exists.mp hidle)] at h
            cases h
        · cases h
  · cases h

/-- Nothing more is needed for a launch than that somebody is signed in at the first look. -/
theorem askAcross_launches (hfirst : first.isLoggedIn = true) (hnone : f.flight = none)
    (hsecond : second.current = some ⟨refused, c⟩) (hthird : third.state = .loggedIn g) :
    f.askAcross caller refused first second third =
      (.launched g c, ⟨third.publish (.refreshing g), some ⟨g, [caller]⟩⟩) := by
  have hstarted := Session.startRefresh_of_loggedIn hthird
  simp only [askAcross, if_pos hfirst, hnone, hsecond, if_true, hstarted]

/-! ### The main theorem -/

/-- **Whose credentials are sent to be replaced.**  Take any session that a history has left,
and let others sign in and out between the looks of somebody who asks.  If that launches a
refresh of generation `g` with credentials `c`, then `c` are those of the refused generation,
as the second look has found them, and the session is refreshing `g` afterwards.

The session has `c` under `g` exactly if nobody has signed in or out between the second and
the third look, or who has signed in last has done so with `c`.  Only in the first case `g`
is the refused generation.  Whatever is refreshed, the result takes the place of what the
session has. -/
theorem launched_own_iff (store : Store) (fails : Nat → Bool) (history : List Operation)
    (flight : Option Flight) (caller : Nat) (refused g : Generation) (c : Credentials)
    (desk : SingleFlight) (fails₁ fails₂ : Nat → Bool) (between₁ between₂ : List Operation) :
    let first := (Session.restore store).after fails history
    let second := first.after fails₁ between₁
    let third := second.after fails₂ between₂
    (∀ o ∈ between₁, o.isSign = true) → (∀ o ∈ between₂, o.isSign = true) →
    askAcross ⟨first, flight⟩ caller refused first second third = (.launched g c, desk) →
    second.current = some ⟨refused, c⟩ ∧ desk.session.state = .refreshing g ∧ refused ≤ g ∧
    (desk.session.current = some ⟨g, c⟩ ↔
      between₂ = [] ∨ between₂.getLast? = some (.signIn c)) ∧
    (g = refused ↔ between₂ = []) ∧
    ∀ x, (desk.settle g (.ok x)).2.session.current =
      some ⟨g.next, x.keepRefreshToken third.credentials?⟩ := by
  intro first second third _ hsigns₂ hlaunched
  obtain ⟨hsecond, hthird, rfl⟩ := launched_across hlaunched
  have hcoherent : second.Coherent :=
    (Session.Coherent.after fails history (.restore store)).after fails₁ between₁
  have hcoherent₃ : third.Coherent := hcoherent.after fails₂ between₂
  have hnewest : refused.number = second.issued := hcoherent.number_of_current hsecond
  have hsettled : ∀ x, (SingleFlight.settle ⟨third.publish (.refreshing g), some ⟨g, [caller]⟩⟩ g
      (.ok x)).2.session.current = some ⟨g.next, x.keepRefreshToken third.credentials?⟩ := by
    intro x
    obtain ⟨c₃, hc₃⟩ := hcoherent₃.current_of_loggedIn hthird
    have hnext : third.nextGeneration = g.next := hcoherent₃.nextGeneration_of_current hc₃
    have hland := Session.finishRefresh_of_refreshing x
      (Session.publish_state third (.refreshing g))
    simp only [settle, land, if_true, hland, Session.replaced_current]
    show some (⟨third.nextGeneration, _⟩ : Snapshot) = _
    rw [hnext]
    rfl
  refine ⟨hsecond, rfl, ?_⟩
  cases Session.signed_spec second fails₂ hsigns₂ with
  | undisturbed nobody same =>
    have hsame : third = second := same
    -- the generation of the state is that of the credentials
    have hg : g = refused := by
      have hgeneration := hcoherent.current_generation
      rw [← hsame, hthird, hsame, hsecond] at hgeneration
      exact (Option.some.inj hgeneration).symm
    subst hg
    refine ⟨Nat.le_refl _, ⟨fun _ => Or.inl nobody, fun _ => ?_⟩, ⟨fun _ => nobody, fun _ => rfl⟩,
      hsettled⟩
    rw [Session.publish_current, hsame, hsecond]
  | @signedIn g' c' last state current newer =>
    -- the generation of the launch was handed out after the second look
    have hg : g' = g := by
      have heq : Session.State.loggedIn g' = .loggedIn g := state.symm.trans hthird
      exact Session.State.loggedIn.inj heq
    subst hg
    have hsome : between₂ ≠ [] := by
      rintro rfl
      cases last
    have hcurrent : third.current = some ⟨g', c'⟩ := current
    refine ⟨Generation.le_iff.mpr (by omega), ?_, ⟨?_, fun hnone => absurd hnone hsome⟩, hsettled⟩
    · rw [Session.publish_current, hcurrent, last]
      constructor
      · intro heq
        cases heq
        exact Or.inr rfl
      · rintro (hnone | heq)
        · exact absurd hnone hsome
        · cases heq
          rfl
    · intro heq
      rw [heq] at newer
      omega
  | signedOut last state =>
    -- nobody is signed in at the third look, so nothing was launched
    have hother : third.state = .loggedOut := state
    rw [hthird] at hother
    cases hother

/-- Nobody's writes fail. -/
def unfailing : Nat → Bool :=
  fun _ => false

/-- Somebody signs in between the first two looks, and the new credentials are refreshed. -/
theorem launched_own_undisturbed :
    let first := (Session.restore .inMemory).after unfailing [.signIn ⟨"old", "Bearer", none, none⟩]
    let between : List Operation := [.signIn ⟨"new", "Bearer", none, none⟩]
    let second := first.after unfailing between
    let desk : SingleFlight := ⟨second.publish (.refreshing ⟨2⟩), some ⟨⟨2⟩, [0]⟩⟩
    (∀ o ∈ between, o.isSign = true) ∧
    askAcross ⟨first, none⟩ 0 ⟨2⟩ first second second =
      (.launched ⟨2⟩ ⟨"new", "Bearer", none, none⟩, desk) ∧
    desk.session.current = some ⟨⟨2⟩, ⟨"new", "Bearer", none, none⟩⟩ := by
  intro first between second desk
  have hsigns : ∀ o ∈ between, o.isSign = true := by decide
  have hlaunched : askAcross ⟨first, none⟩ 0 ⟨2⟩ first second second =
      (.launched ⟨2⟩ ⟨"new", "Bearer", none, none⟩, desk) :=
    askAcross_launches rfl rfl rfl rfl
  obtain ⟨-, -, -, hiff, -⟩ := launched_own_iff .inMemory unfailing
    [.signIn ⟨"old", "Bearer", none, none⟩] none 0 ⟨2⟩ ⟨2⟩ ⟨"new", "Bearer", none, none⟩ desk
    unfailing unfailing between [] hsigns (List.forall_mem_nil _) hlaunched
  exact ⟨hsigns, hlaunched, hiff.mpr (Or.inl rfl)⟩

/-- Somebody signs in between the last two looks.  The old credentials are sent to be
replaced, under the generation of the new ones, and what comes of it takes their place. -/
theorem launched_stale :
    let first := (Session.restore .inMemory).after unfailing [.signIn ⟨"old", "Bearer", none, none⟩]
    let third := first.after unfailing [.signIn ⟨"new", "Bearer", none, none⟩]
    let desk : SingleFlight := ⟨third.publish (.refreshing ⟨2⟩), some ⟨⟨2⟩, [0]⟩⟩
    askAcross ⟨first, none⟩ 0 .first first first third =
      (.launched ⟨2⟩ ⟨"old", "Bearer", none, none⟩, desk) ∧
    desk.session.current = some ⟨⟨2⟩, ⟨"new", "Bearer", none, none⟩⟩ ∧
    (desk.settle ⟨2⟩ (.ok ⟨"older", "Bearer", none, none⟩)).2.session.current =
      some ⟨⟨3⟩, ⟨"older", "Bearer", none, none⟩⟩ :=
  ⟨rfl, rfl, rfl⟩

end SingleFlight

end SessionKeeper
