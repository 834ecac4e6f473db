import SessionKeeper.Proofs.Session.Coherence
import SessionKeeper.Refresh.SingleFlight

/-! # The session and the flight on it

Who asks for newer credentials, a flight that lands, and whoever signs in or
out change a `SingleFlight` in turn.  Its session and its flight do not change
together: the session may end, and begin again several times, while one flight
is under way.

* `SingleFlight.Sound` is what they have in common at all times.  While a
  flight replaces generation `g`, the session is still refreshing `g`, or it is
  over, or it has newer credentials; without a flight it is never refreshing.
* `ask_spec` and `land_spec` say all that a question and a landing can do, with
  a named case for each (`Asked`, `Landed`).  What follows about them is read
  off these cases; the functions are not opened again.

Core Lean 4 only; no Mathlib. -/

namespace SessionKeeper

/-! ### Sessions with a flight under way -/

/-- What a session may be at while credentials of generation `g` are being
replaced: the replacement goes on, or the session has left it behind. -/
structure Session.Awaits (s : Session) (g : Generation) : Prop where
  state_cases : s.state = .refreshing g ∨ s.state = .loggedOut ∨ ∃ h, s.state = .loggedIn h ∧ g < h
  issued : g.number ≤ s.issued

namespace Session.Awaits

variable {s s' : Session} {g : Generation}

/-- Only the state and the generations handed out matter. -/
theorem congr (h : s.Awaits g) (hstate : s'.state = s.state) (hissued : s'.issued = s.issued) :
    s'.Awaits g where
  state_cases := by rw [hstate]; exact h.state_cases
  issued := by rw [hissued]; exact h.issued

theorem signIn (h : s.Awaits g) (c : Credentials) : (s.signIn c).2.Awaits g where
  state_cases := by
    have hnext := s.nextGeneration_number
    have hg := h.issued
    exact Or.inr (Or.inr ⟨s.nextGeneration, rfl, Generation.lt_iff.mpr (by omega)⟩)
  issued := by
    rw [signIn_issued]
    exact Nat.le_succ_of_le h.issued

theorem signOut (h : s.Awaits g) : s.signOut.2.Awaits g where
  state_cases := Or.inr (Or.inl (by simp))
  issued := by rw [signOut_issued]; exact h.issued

theorem claimPrompt (h : s.Awaits g) : s.claimPrompt.2.Awaits g :=
  h.congr (by simp) (by simp)

end Session.Awaits

namespace SingleFlight

/-! ### Soundness -/

/-- A session and the flight on it fit together. -/
structure Sound (f : SingleFlight) : Prop where
  coherent : f.session.Coherent
  idle : f.flight = none → ∀ g, f.session.state ≠ .refreshing g
  awaits : ∀ flight, f.flight = some flight → f.session.Awaits flight.generation

/-- Nobody asks for anything of a restored session yet. -/
theorem Sound.restore (store : Store) : Sound { session := .restore store } where
  coherent := .restore store
  idle _ g := by
    unfold Session.restore
    split <;> simp
  awaits flight h := by cases h

/-- Whoever signs in or out, or claims the prompt, leaves the desk sound: they
never start a refresh, and they leave a flight behind if there is one. -/
theorem Sound.withSession {f : SingleFlight} {s : Session} (h : f.Sound) (hs : s.Coherent)
    (hidle : ∀ g, s.state = .refreshing g → f.session.state = .refreshing g)
    (hawaits : ∀ g, f.session.Awaits g → s.Awaits g) : Sound { f with session := s } where
  coherent := hs
  idle hnone g hg := h.idle hnone g (hidle g hg)
  awaits flight hflight := hawaits _ (h.awaits flight hflight)

namespace Sound

variable {f : SingleFlight}

theorem signIn (h : f.Sound) (c : Credentials) :
    Sound { f with session := (f.session.signIn c).2 } :=
  h.withSession (.signIn _ c) (fun _ hg => by cases hg) (fun _ ha => ha.signIn c)

theorem signOut (h : f.Sound) : Sound { f with session := f.session.signOut.2 } :=
  h.withSession (.signOut _) (fun _ hg => by rw [Session.signOut_state] at hg; cases hg)
    (fun _ ha => ha.signOut)

theorem claimPrompt (h : f.Sound) : Sound { f with session := f.session.claimPrompt.2 } :=
  h.withSession h.coherent.claimPrompt (fun _ hg => by rwa [Session.claimPrompt_state] at hg)
    (fun _ ha => ha.claimPrompt)

theorem store (h : f.Sound) (store : Store) :
    Sound { f with session := { f.session with store } } :=
  h.withSession (h.coherent.congr rfl rfl rfl) (fun _ hg => hg) (fun _ ha => ha.congr rfl rfl)

/-- Without a flight a session is idle under its credentials, or over. -/
theorem state_of_idle (h : f.Sound) (hnone : f.flight = none) :
    f.session.state = .loggedOut ∨
      ∃ g c, f.session.state = .loggedIn g ∧ f.session.current = some ⟨g, c⟩ := by
  cases hs : f.session.state with
  | loggedOut => exact Or.inl rfl
  | loggedIn g =>
    obtain ⟨c, hc⟩ := h.coherent.current_of_loggedIn hs
    exact Or.inr ⟨g, c, rfl, hc⟩
  | refreshing g => exact absurd hs (h.idle hnone g)

end Sound

/-! ### Questions -/

/-- What a question of `caller`, whose credentials of generation `refused` were
refused, comes to: the reply, and the session and flight after it. -/
inductive Asked (f : SingleFlight) (caller : Nat) (refused : Generation) :
    Reply → SingleFlight → Prop where
  /-- Nobody is signed in. -/
  | signedOut (state : f.session.state = .loggedOut) :
      Asked f caller refused (.answered (.error .noSession)) f
  /-- The caller joins those who wait. -/
  | joined {flight : Flight} (state : f.session.isLoggedIn = true)
      (under : f.flight = some flight) :
      Asked f caller refused (.joined (flight.generation.isOlder refused))
        { f with flight := some { flight with waiters := flight.waiters ++ [caller] } }
  /-- The session has other credentials than the refused ones already. -/
  | advanced {g : Generation} {c : Credentials} (idle : f.flight = none)
      (state : f.session.state = .loggedIn g) (current : f.session.current = some ⟨g, c⟩)
      (ne : g ≠ refused) : Asked f caller refused (.answered (.ok c)) f
  /-- The caller is the first to wait for a new flight. -/
  | launched {c : Credentials} (idle : f.flight = none)
      (state : f.session.state = .loggedIn refused)
      (current : f.session.current = some ⟨refused, c⟩) :
      Asked f caller refused (.launched refused c)
        ⟨f.session.publish (.refreshing refused), some ⟨refused, [caller]⟩⟩

theorem isLoggedIn_eq_false {s : Session} : s.isLoggedIn = false ↔ s.state = .loggedOut := by
  unfold Session.isLoggedIn
  cases s.state <;> simp [Session.State.isLoggedIn]

/-- **Every question comes to one of the four.**  There is no fifth case: a
session that is signed in, with no flight on it, can always be refreshed. -/
theorem ask_spec {f : SingleFlight} (h : f.Sound) (caller : Nat) (refused : Generation) :
    ∃ reply f', f.ask caller refused = (reply, f') ∧ Asked f caller refused reply f' := by
  unfold ask askAcross
  cases hin : f.session.isLoggedIn with
  | false => exact ⟨_, _, rfl, .signedOut (isLoggedIn_eq_false.mp hin)⟩
  | true =>
    cases hflight : f.flight with
    | some flight =>
      exact ⟨_, _, rfl, .joined hin hflight⟩
    | none =>
      have hf : (⟨f.session, none⟩ : SingleFlight) = f := by rw [← hflight]
      rcases h.state_of_idle hflight with hs | ⟨g, c, hs, hc⟩
      · rw [isLoggedIn_eq_false.mpr hs] at hin
        cases hin
      · simp only [hc, hf]
        by_cases hg : g = refused
        · subst hg
          simp only [if_true, Session.startRefresh_of_loggedIn hs]
          exact ⟨_, _, rfl, .launched hflight hs hc⟩
        · simp only [if_neg hg]
          exact ⟨_, _, rfl, .advanced hflight hs hc hg⟩

namespace Asked

variable {f f' : SingleFlight} {caller : Nat} {refused : Generation} {reply : Reply}

theorem sound (h : Asked f caller refused reply f') (hf : f.Sound) : f'.Sound := by
  cases h with
  | signedOut state => exact hf
  | joined state under =>
    refine ⟨hf.coherent, nofun, fun flight' hflight' => ?_⟩
    cases hflight'
    have hawaits := hf.awaits _ under
    exact hawaits
  | advanced idle state current ne => exact hf
  | launched idle state current =>
    refine ⟨hf.coherent.startRefresh state, nofun, fun flight' hflight' => ?_⟩
    cases hflight'
    exact ⟨Or.inl rfl, Nat.le_of_eq (hf.coherent.number_of_current current)⟩

theorem follows (h : Asked f caller refused reply f') : f.session.Follows f'.session := by
  cases h with
  | signedOut state => exact .refl _
  | joined state under => exact .refl _
  | advanced idle state current ne => exact .refl _
  | launched idle state current => exact .startRefresh _ _

end Asked

/-! ### Landings -/

/-- What the landing of a flight of generation `g` comes to: the outcome for
those who waited, and the session after it. -/
inductive Landed (s : Session) (g : Generation) (result : Except CallError Credentials) :
    Outcome → Session → Prop where
  /-- The credentials are replaced. -/
  | replaced {c : Credentials} (state : s.state = .refreshing g) (returned : result = .ok c) :
      Landed s g result (.ok (s.replacement c)) (s.replaced c)
  /-- The session ends with the flight. -/
  | failed {e : CallError} (state : s.state = .refreshing g) (returned : result = .error e) :
      Landed s g result (.error (.ofError e)) s.ended
  /-- The session has newer credentials already. -/
  | overtaken {h : Generation} {c : Credentials} (state : s.state = .loggedIn h) (newer : g < h)
      (current : s.current = some ⟨h, c⟩) : Landed s g result (.ok c) s
  /-- The session is over already. -/
  | ended {refusal : Refusal} (state : s.state = .loggedOut) :
      Landed s g result (.error refusal) s

theorem instead_of_loggedOut {s : Session} (h : s.state = .loggedOut) (refusal : Refusal) :
    instead s refusal = .error refusal := by
  simp only [instead, isLoggedIn_eq_false.mpr h]

theorem instead_of_loggedIn {s : Session} {g : Generation} {c : Credentials}
    (h : s.state = .loggedIn g) (hc : s.current = some ⟨g, c⟩) (refusal : Refusal) :
    instead s refusal = .ok c := by
  have htrue : s.isLoggedIn = true := by rw [Session.isLoggedIn, h]; rfl
  simp only [instead, htrue, hc]

/-- What a session that has left a flight behind has to offer. -/
theorem instead_spec {s : Session} {g : Generation} (hs : s.Coherent) (ha : s.Awaits g)
    (hne : s.state ≠ .refreshing g) (result : Except CallError Credentials) (refusal : Refusal) :
    Landed s g result (instead s refusal) s := by
  rcases ha.state_cases with hr | hout | ⟨h, hin, hlt⟩
  · exact absurd hr hne
  · rw [instead_of_loggedOut hout]
    exact .ended hout
  · obtain ⟨c, hc⟩ := hs.current_of_loggedIn hin
    rw [instead_of_loggedIn hin hc]
    exact .overtaken hin hlt hc

/-- **Every landing comes to one of the four.** -/
theorem land_spec {s : Session} {g : Generation} (hs : s.Coherent) (ha : s.Awaits g)
    (result : Except CallError Credentials) :
    ∃ outcome s', land s g result = (outcome, s') ∧ Landed s g result outcome s' := by
  by_cases hr : s.state = .refreshing g
  · cases result with
    | ok c => exact ⟨_, _, by rw [land, Session.finishRefresh_of_refreshing c hr], .replaced hr rfl⟩
    | error e => exact ⟨_, _, by rw [land, Session.failRefresh_of_refreshing hr], .failed hr rfl⟩
  · cases result with
    | ok c =>
      exact ⟨_, _, by rw [land, Session.finishRefresh_of_ne c hr], instead_spec hs ha hr _ _⟩
    | error e => exact ⟨_, _, by rw [land, Session.failRefresh_of_ne hr], instead_spec hs ha hr _ _⟩

namespace Landed

variable {s s' : Session} {g : Generation} {result : Except CallError Credentials}
  {outcome : Outcome}

/-- A landing leaves no refresh behind. -/
theorem not_refreshing (h : Landed s g result outcome s') (h' : Generation) :
    s'.state ≠ .refreshing h' := by
  cases h with
  | replaced state returned => simp
  | failed state returned => simp
  | overtaken state newer current => simp [state]
  | ended state => simp [state]

theorem coherent (h : Landed s g result outcome s') (hs : s.Coherent) : s'.Coherent := by
  cases h with
  | replaced state returned => exact .replaced _ _
  | failed state returned => exact .ended _
  | overtaken state newer current => exact hs
  | ended state => exact hs

theorem sound (h : Landed s g result outcome s') (hs : s.Coherent) : Sound ⟨s', none⟩ where
  coherent := h.coherent hs
  idle _ := h.not_refreshing
  awaits flight hflight := by cases hflight

theorem follows (h : Landed s g result outcome s') : s.Follows s' := by
  cases h with
  | replaced state returned => exact .replaced _ _
  | failed state returned => exact .ended _
  | overtaken state newer current => exact .refl _
  | ended state => exact .refl _

end Landed

/-- A flight that is under way lands: everybody who waits gets one outcome, and
there is no flight any more. -/
theorem settle_spec {f : SingleFlight} {flight : Flight} (h : f.Sound)
    (hflight : f.flight = some flight) (result : Except CallError Credentials) :
    ∃ outcome s', f.settle flight.generation result = (some (flight.waiters, outcome), ⟨s', none⟩) ∧
      Landed f.session flight.generation result outcome s' := by
  obtain ⟨outcome, s', hland, hlanded⟩ := land_spec h.coherent (h.awaits flight hflight) result
  refine ⟨outcome, s', ?_, hlanded⟩
  simp only [settle, hflight, if_true, hland]

end SingleFlight

end SessionKeeper
