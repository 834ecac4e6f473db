import SessionKeeper.Proofs.Client.Steps
import SessionKeeper.Proofs.Credential.Store

/-! # Who claims the sign-in prompt

While somebody is signed in nobody has claimed the sign-in prompt
(`Session.Unclaimed`).  So the first who ends the session claims it, and whoever ends it
again does not (`signOut_signInPrompts`).

Core Lean 4 only; no Mathlib. -/

namespace SessionKeeper

open SingleFlight (Asked Landed)

/-! ### The sign-in prompt -/

namespace Session

variable {s : Session}

@[simp] theorem signOut_prompted (s : Session) : s.signOut.2.prompted = s.prompted := by
  unfold signOut
  split <;> rfl

/-- Once the session is over, the first who claims the prompt gets it, and the others do
not. -/
theorem claimPrompt_of_loggedOut (h : s.state = .loggedOut) :
    s.claimPrompt = (!s.prompted, { s with prompted := true }) := by
  have hout := SingleFlight.isLoggedIn_eq_false.mpr h
  obtain ⟨state, current, lastIssued, prompted, store, watch⟩ := s
  cases prompted with
  | true => simp only [claimPrompt, hout, Bool.false_or, if_true, Bool.not_true]
  | false =>
    simp only [claimPrompt, hout, Bool.or_false, Bool.false_eq_true, if_false, Bool.not_false]

/-- While somebody is signed in, the prompt is there to be claimed. -/
def Unclaimed (s : Session) : Prop :=
  s.isLoggedIn = true → s.prompted = false

theorem Unclaimed.of_loggedOut (h : s.state = .loggedOut) : s.Unclaimed := fun hin => by
  rw [SingleFlight.isLoggedIn_eq_false.mpr h] at hin
  cases hin

theorem Unclaimed.restore (store : Store) : (Session.restore store).Unclaimed := fun _ => by
  unfold Session.restore
  split <;> rfl

end Session

/-- **Step.**  Nobody claims the prompt of a session that goes on. -/
theorem SingleFlight.Moved.unclaimed {f f' : SingleFlight} (h : Moved f f')
    (hf : f.session.Unclaimed) : f'.session.Unclaimed := by
  have hin : ∀ g, f.session.state = .refreshing g ∨ f.session.state = .loggedIn g →
      f.session.prompted = false := fun g hstate => hf (by
    rcases hstate with hstate | hstate <;> rw [Session.isLoggedIn, hstate] <;> rfl)
  cases h with
  | same => exact hf
  | asked asked =>
    cases asked with
    | launched idle state current => exact fun _ => hin _ (Or.inr state)
    | _ => exact hf
  | landed flight landed =>
    cases landed with
    | replaced state returned => exact fun _ => hin _ (Or.inl state)
    | failed state returned => exact .of_loggedOut rfl
    | _ => exact hf
  | signedIn c => exact fun _ => rfl
  | signedOut => exact .of_loggedOut (by simp)
  | prompted =>
    intro hclaimed
    have hlogged : f.session.isLoggedIn = true := by
      rw [← hclaimed, Session.isLoggedIn, Session.isLoggedIn, Session.claimPrompt_state]
    simp only [Session.claimPrompt, hlogged, Bool.true_or, if_true]
    exact hf hlogged
  | stored store => exact hf

namespace Client

/-- **Run.**  Nobody claims the prompt of a session that goes on. -/
theorem unclaimed_after {c : Client} (hs : c.desk.Sound) (h : c.session.Unclaimed)
    (es : List Event) : (c.after es).session.Unclaimed := by
  induction es generalizing c with
  | nil => exact h
  | cons e es ih =>
    have hmoved := (step_spec hs e).moved hs
    exact ih (hmoved.sound hs) (hmoved.unclaimed h)

/-! ### The end of a session -/

section signOut

variable (c : Client) (n : Nat) (e : CallError)

/-- Whoever ends a session claims the prompt, or somebody else has done so. -/
@[simp] theorem signOut_session : c.signOut.session =
    { c.session.signOut.2 with prompted := true } := by
  show c.signOut.desk.session = _
  rw [signOut_desk, Session.claimPrompt_of_loggedOut (Session.signOut_state _)]

theorem signOut_signInPrompts :
    c.signOut.signInPrompts = c.signInPrompts + if c.session.prompted then 0 else 1 := by
  have hclaim := Session.claimPrompt_of_loggedOut (Session.signOut_state c.session)
  rw [Session.signOut_prompted] at hclaim
  unfold signOut promptSignIn
  rw [show (c.setSession c.session.signOut.2).session = c.session.signOut.2 from rfl, hclaim]
  cases c.session.prompted <;> rfl

end signOut

end Client

end SessionKeeper
