import SessionKeeper.Proofs.Client.Effects
import SessionKeeper.Proofs.Client.Expiry

/-! # One prompt for each end of a session

The application is asked for the sign-in when a session is ended, and when a request is
refused that had shown no credentials (`Prompts`).  Both happen any number of times while
nobody is signed in, and in any order.  Still the application is asked once at most until
somebody signs in: whoever comes first claims the prompt, and only a sign-in releases it.

A session may also end with a flight.  Nobody is asked then, until one of those who have
waited for the flight is told.

No more of Mathlib than the imports bring. -/

namespace SessionKeeper

namespace Client

/-- Somebody is told, or wishes, that the session is over, or is refused without having
shown credentials. -/
def Prompts (c : Client) (e : Event) : Prop :=
  SignsOut c e ∨ ∃ n, Rejected c e n

section prompts

variable {c : Client} {e : Event} {es : List Event} {n : Nat}

/-! ### One event -/

/-- The prompt is claimed in an event, and the application is asked if it had been free. -/
structure Claimed (c c' : Client) : Prop where
  prompted : c'.session.prompted = true
  signInPrompts : c'.signInPrompts = c.signInPrompts + if c.session.prompted then 0 else 1

theorem SignsOut.claimed (hc : c.Ledger) (h : SignsOut c e) : Claimed c (c.step e) := by
  constructor
  · rw [h.session hc, signOut_session]
  · rw [h.signInPrompts hc, signOut_signInPrompts]

/-- Nobody is signed in when a request is refused for which there were no credentials,
unless somebody has signed in meanwhile. -/
theorem Rejected.claimed (hc : c.Ledger) (h : Rejected c e n)
    (hout : (c.step e).session.isLoggedIn = false) : Claimed c (c.step e) := by
  have hsession := h.session hc
  rw [hsession, Session.isLoggedIn, Session.claimPrompt_state] at hout
  have hstate := SingleFlight.isLoggedIn_eq_false.mp hout
  constructor
  · rw [hsession, Session.claimPrompt_of_loggedOut hstate]
  · have hbefore : c.session.isLoggedIn = false := hout
    rw [h.signInPrompts hc, promptSignIn_signInPrompts, hbefore, Bool.false_or]

/-- **Step.**  The application is asked only while nobody is signed in. -/
theorem signInPrompts_spec (hc : c.Ledger) (e : Event) :
    (c.step e).signInPrompts = c.signInPrompts ∨
      (c.step e).signInPrompts = c.signInPrompts + 1 ∧ (c.step e).session.state = .loggedOut := by
  cases affects_spec hc e with
  | spares session prompts => exact Or.inl prompts
  | refreshes state session prompts => exact Or.inl prompts
  | signsIn token settled session prompts => exact Or.inl prompts
  | lands under token landed session flight prompts => exact Or.inl prompts
  | signsOut cause session prompts =>
    have hstate : (c.step e).session.state = .loggedOut := by
      rw [session, signOut_session]
      exact Session.signOut_state _
    rw [prompts, signOut_signInPrompts]
    by_cases hprompted : c.session.prompted = true
    · exact Or.inl (by rw [if_pos hprompted, Nat.add_zero])
    · exact Or.inr ⟨by rw [if_neg hprompted], hstate⟩
  | rejects cause session prompts =>
    rw [prompts, promptSignIn_signInPrompts]
    by_cases htaken : (c.session.isLoggedIn || c.session.prompted) = true
    · exact Or.inl (by rw [if_pos htaken, Nat.add_zero])
    · have hout : c.session.isLoggedIn = false := by
        rw [Bool.not_eq_true, Bool.or_eq_false_iff] at htaken
        exact htaken.1
      refine Or.inr ⟨by rw [if_neg htaken], ?_⟩
      rw [session, Session.claimPrompt_state]
      exact SingleFlight.isLoggedIn_eq_false.mp hout
  | stores event session prompts => exact Or.inl prompts

/-- **Step.**  While nobody is signed in the prompt is claimed by one of these events, or
by none. -/
theorem prompts_spec (hc : c.Ledger) (hout : (c.step e).session.isLoggedIn = false) :
    Prompts c e ∧ Claimed c (c.step e) ∨
      ¬ Prompts c e ∧ (c.step e).session.prompted = c.session.prompted ∧
        (c.step e).signInPrompts = c.signInPrompts := by
  by_cases hprompts : Prompts c e
  · refine Or.inl ⟨hprompts, ?_⟩
    rcases hprompts with hsigns | ⟨n, hrejected⟩
    · exact hsigns.claimed hc
    · exact hrejected.claimed hc hout
  · refine Or.inr ⟨hprompts, ?_⟩
    cases (affects_spec hc e).leaves hout with
    | spares session prompts => exact ⟨by rw [session], prompts⟩
    -- a session that ends with a flight does so silently
    | lands session prompts => exact ⟨by rw [session]; rfl, prompts⟩
    | signsOut cause => exact absurd (Or.inl cause) hprompts
    | rejects cause session => exact absurd (Or.inr ⟨_, cause⟩) hprompts
    | stores session prompts => exact ⟨by rw [session], prompts⟩

/-! ### Runs -/

/-- **Run.**  Once the prompt is claimed, nobody is asked again before a sign-in. -/
theorem Outside.claimed_before (h : Outside c es) (hc : c.Ledger)
    (hprompted : c.session.prompted = true) : (c.after es).signInPrompts = c.signInPrompts := by
  induction h with
  | nil c => rfl
  | @cons c e es out rest ih =>
    rcases prompts_spec hc out with ⟨-, hclaimed⟩ | ⟨-, hsame, hnone⟩
    · have hcount := hclaimed.signInPrompts
      rw [hprompted, if_pos rfl] at hcount
      exact (ih (hc.step e) hclaimed.prompted).trans hcount
    · exact (ih (hc.step e) (hsame.trans hprompted)).trans hnone

/-- **Run.**  As long as the prompt is free, the first of these events claims it. -/
theorem Outside.claimed_once (h : Outside c es) (hc : c.Ledger)
    (hfree : c.session.prompted = false) :
    (c.after es).signInPrompts = c.signInPrompts + 1 ∧ During c es Prompts ∨
      (c.after es).signInPrompts = c.signInPrompts ∧ ¬ During c es Prompts := by
  induction h with
  | nil c => exact Or.inr ⟨rfl, During.nil⟩
  | @cons c e es out rest ih =>
    rw [During.cons_iff]
    rcases prompts_spec hc out with ⟨hprompts, hclaimed⟩ | ⟨hother, hsame, hnone⟩
    · have hcount := hclaimed.signInPrompts
      rw [hfree, if_neg Bool.false_ne_true] at hcount
      refine Or.inl ⟨?_, Or.inl hprompts⟩
      exact (rest.claimed_before (hc.step e) hclaimed.prompted).trans hcount
    · have hlater := ih (hc.step e) (hsame.trans hfree)
      rw [hnone] at hlater
      rcases hlater with ⟨hone, hduring⟩ | ⟨hzero, hduring⟩
      · exact Or.inl ⟨hone, Or.inr hduring⟩
      · exact Or.inr ⟨hzero, fun hor => hor.elim hother hduring⟩

end prompts

/-! ### The main theorem -/

/-- **One prompt for each end of a session.**  Take any run of a client.

* The application is asked for the sign-in only while nobody is signed in.
* Take a time without a session, from its beginning: the client has just been started, or
  somebody is signed in before the first event of that time.  The application is asked
  once in it if the session is ended in it or a request is refused that had shown no
  credentials, and otherwise it is not asked. -/
theorem prompted_once (options : Options) (store : Store) (now : Time.Instant)
    (past : List Event) :
    let c₀ := (Client.new options store now).after past
    (∀ e, (c₀.step e).signInPrompts = c₀.signInPrompts ∨
      (c₀.step e).signInPrompts = c₀.signInPrompts + 1 ∧
        (c₀.step e).session.state = .loggedOut) ∧
    ∀ es, (past = [] ∨ c₀.session.isLoggedIn = true) → Outside c₀ es →
      (c₀.after es).signInPrompts = c₀.signInPrompts + 1 ∧ During c₀ es Prompts ∨
        (c₀.after es).signInPrompts = c₀.signInPrompts ∧ ¬ During c₀ es Prompts := by
  intro c₀
  have hnew : (Client.new options store now).Ledger := .new options store now
  have hc₀ : c₀.Ledger := hnew.after past
  refine ⟨signInPrompts_spec hc₀, fun es hbegins houtside => houtside.claimed_once hc₀ ?_⟩
  rcases hbegins with rfl | hin
  · show (Session.restore store).prompted = false
    unfold Session.restore
    split <;> rfl
  · have hunclaimed : c₀.session.Unclaimed := unclaimed_after hnew.desk (.restore store) past
    exact hunclaimed hin

/-- Somebody signs in. -/
def enteringEvents : List Event :=
  [.signIn "a@b.c" "pw", .go 0, .reply 0 (granting "one")]

/-- The session is ended by a wish, a request is refused that has shown no credentials, and
the session is ended by a wish once more. -/
def leavingEvents : List Event :=
  [.signOut, .spawn (.ok page), .go 0, .reply 1 denying, .signOut]

/-- The application is asked once for all that, and it had not been asked before. -/
theorem prompted_once_leaving :
    let c₀ := (Client.new {} .inMemory epoch).after enteringEvents
    c₀.session.isLoggedIn = true ∧ Outside c₀ leavingEvents ∧ During c₀ leavingEvents Prompts ∧
    c₀.signInPrompts = 0 ∧ (c₀.after leavingEvents).signInPrompts = 1 := by
  intro c₀
  have hin : c₀.session.isLoggedIn = true := by decide +kernel
  have houtside : Outside c₀ leavingEvents := by decide +kernel
  have hduring : During c₀ leavingEvents Prompts :=
    During.cons_iff.mpr (Or.inl (Or.inl (Or.inl rfl)))
  have hbefore : c₀.signInPrompts = 0 := by decide +kernel
  refine ⟨hin, houtside, hduring, hbefore, ?_⟩
  have honce := (prompted_once {} .inMemory epoch enteringEvents).2 leavingEvents (Or.inr hin)
    houtside
  rcases honce with ⟨hone, -⟩ | ⟨-, hnone⟩
  · exact hone.trans (by rw [hbefore])
  · exact absurd hduring hnone

end Client

end SessionKeeper
