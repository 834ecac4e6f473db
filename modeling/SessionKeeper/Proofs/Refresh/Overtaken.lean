import SessionKeeper.Proofs.Refresh.Waiters

/-! # Flights that are overtaken

While a flight is under way somebody may sign out or in, and then the session
does not wait for its result any more.  The call still ends, in whatever way, and
all who wait have to be told something.

* The session is left as it is, by every result alike (`settle_of_overtaken`).
* If somebody has signed in, all who wait get the credentials of the new session,
  also if the call has failed.
* If the session is over they are refused.  What they are told then hangs on the
  result: a call that brought credentials, or that the service refused, tells them
  that there is no use in asking again; a call that failed in any other way tells
  them to try later, though nobody is signed in (`retryable_lapse_iff`).

Core Lean 4 only; no Mathlib. -/

namespace SessionKeeper

open SingleFlight (Outcome Flight Landed)

/-! ### Refusals -/

/-- Whether an error is a refusal by the service. -/
def CallError.isRefusal : CallError → Bool
  | .authorizationExpired => true
  | .validation _ _ => true
  | _ => false

/-- Asking again may help after every failure that is no refusal. -/
theorem Refusal.retryable_ofError (e : CallError) :
    (Refusal.ofError e).retryable = !e.isRefusal := by
  cases e <;> rfl

namespace SingleFlight

/-- What those who wait are told when the call ends after the session did. -/
def lapse : Except CallError Credentials → Refusal
  | .ok _ => .sessionEnded
  | .error e => .ofError e

theorem retryable_lapse_iff (result : Except CallError Credentials) :
    (lapse result).retryable = true ↔ ∃ e, result = .error e ∧ e.isRefusal = false := by
  cases result with
  | ok c => simp [lapse, Refusal.sessionEnded]
  | error e => simp [lapse, Refusal.retryable_ofError]

/-! ### Landings that come too late -/

/-- A session that does not wait for a result is left as it is. -/
theorem land_of_ne {s : Session} {g : Generation} (h : s.state ≠ .refreshing g)
    (result : Except CallError Credentials) : land s g result = (instead s (lapse result), s) := by
  cases result with
  | ok c => simp only [land, Session.finishRefresh_of_ne c h, lapse]
  | error e => simp only [land, Session.failRefresh_of_ne h, lapse]

theorem settle_of_overtaken {f : SingleFlight} {flight : Flight} (hflight : f.flight = some flight)
    (h : f.session.state ≠ .refreshing flight.generation) (result : Except CallError Credentials) :
    f.settle flight.generation result =
      (some (flight.waiters, instead f.session (lapse result)), ⟨f.session, none⟩) := by
  simp only [settle, hflight, if_true, land_of_ne h]

end SingleFlight

namespace Traffic

/-- The call of an overtaken flight ends: the session stays, the flight is gone,
and all who wait are woken. -/
theorem settleAt_of_overtaken {t : Traffic} (hs : t.Sound) {flight : Flight}
    (hflight : t.desk.flight = some flight)
    (h : t.desk.session.state ≠ .refreshing flight.generation)
    (result : Except CallError Credentials) :
    let outcome := SingleFlight.instead t.desk.session (SingleFlight.lapse result)
    t.sends 0 result = flight.waiters.map (·, outcome) ∧
      t.settleAt 0 result = flight.waiters.foldl (wake outcome)
        { t with calls := [], desk := ⟨t.desk.session, none⟩ } := by
  obtain ⟨call, hcalls, hg⟩ := hs.calls_eq_singleton hflight
  have hplace : t.calls[0]? = some call := by rw [hcalls]; rfl
  have hnil : t.calls.eraseIdx 0 = [] := by rw [hcalls]; rfl
  have hsettle := SingleFlight.settle_of_overtaken hflight h result
  refine ⟨?_, ?_⟩
  · simp only [sends, hplace, hg, hsettle]
  · simp only [settleAt, settle, hplace, hg, hnil, hsettle]

/-! ### The main theorem -/

/-- **Nothing comes of an overtaken flight.**  Take any run over a restored
session at whose end a flight is under way that the session does not wait for any
more, and let the call of that flight end, with credentials, with any error, or by
being cut off.

* The session is the same as before, the flight is gone, and all who wait are
  sent one outcome, with which those who have not gone away are woken.
* Either somebody is signed in under a generation newer than that of the flight:
  then the outcome is the credentials of that session.
* Or the session is over: then the outcome is a refusal.  It says that there is no
  use in asking again exactly if the call brought credentials, or failed by a
  refusal of the service. -/
theorem overtaken_settle (store : Store) (es : List Event) (flight : Flight) (ending : Ending)
    (hflight : ((start (.restore store)).after es).desk.flight = some flight)
    (hovertaken : ((start (.restore store)).after es).desk.session.state ≠
      .refreshing flight.generation) :
    let t := (start (.restore store)).after es
    let t' := t.step (.settle 0 ending)
    t'.desk = ⟨t.desk.session, none⟩ ∧
    ∃ outcome, t.sent (.settle 0 ending) = flight.waiters.map (·, outcome) ∧
      (∀ (n : Nat) refused superseded, t.callers[n]? = some (.waiting refused superseded) →
        t'.callers[n]? = some (.woken refused superseded outcome)) ∧
      ((∃ h c, t.desk.session.state = .loggedIn h ∧ flight.generation < h ∧
          t.desk.session.current = some ⟨h, c⟩ ∧ outcome = .ok c) ∨
        t.desk.session.state = .loggedOut ∧ t.desk.session.current = none ∧
          ∃ refusal, outcome = .error refusal ∧
            (refusal.retryable = false ↔
              (∃ c, ending.result = .ok c) ∨
                ∃ e, ending.result = .error e ∧ e.isRefusal = true)) := by
  intro t t'
  have h₀ : (start (.restore store)).Sound := .start store
  have hs : t.Sound := h₀.after es
  have ha : t.Attached := (Attached.start _).after h₀ es
  obtain ⟨hsends, hsettle⟩ := settleAt_of_overtaken hs hflight hovertaken ending.result
  have ht' : t' = _ := hsettle
  refine ⟨by rw [ht', wakeAll_desk], _, hsends, fun n refused superseded hn => ?_, ?_⟩
  · -- whoever waits is on the list, and so is woken
    have hmem := ha.listed n (waits_iff.mpr ⟨_, _, hn⟩)
    rw [waiters_of_some hflight] at hmem
    rw [ht', wakeAll_callers, if_pos hmem]
    show Option.map _ t.callers[n]? = _
    rw [hn]
    rfl
  · rcases (hs.desk.awaits flight hflight).state_cases with hr | hout | ⟨h, hin, hlt⟩
    · exact absurd hr hovertaken
    · refine Or.inr ⟨hout, hs.desk.coherent.current_of_loggedOut hout, _,
        SingleFlight.instead_of_loggedOut hout _, ?_⟩
      rw [← Bool.not_eq_true, SingleFlight.retryable_lapse_iff]
      cases ending.result <;> simp
    · obtain ⟨c, hc⟩ := hs.desk.coherent.current_of_loggedIn hin
      exact Or.inl ⟨h, c, hin, hlt, hc, SingleFlight.instead_of_loggedIn hin hc _⟩

/-- Somebody has signed in while the credentials of a former session were being
replaced. -/
def overtakenTraffic : Traffic :=
  (start (.restore .inMemory)).after
    [.signIn ⟨"old", "Bearer", none, none⟩, .spawn .first, .run 0, .signOut,
      .signIn ⟨"new", "Bearer", none, none⟩]

/-- The call is cut off, and the caller gets the credentials of the new session. -/
theorem overtaken_settle_signedIn :
    overtakenTraffic.desk.flight = some ⟨.first, [0]⟩ ∧
    overtakenTraffic.desk.session.state ≠ .refreshing .first ∧
    (overtakenTraffic.step (.settle 0 .crashed)).desk = ⟨overtakenTraffic.desk.session, none⟩ ∧
    (overtakenTraffic.step (.settle 0 .crashed)).callers[0]? =
      some (.woken .first false (.ok ⟨"new", "Bearer", none, none⟩)) := by
  have hflight : overtakenTraffic.desk.flight = some ⟨.first, [0]⟩ := rfl
  have hovertaken : overtakenTraffic.desk.session.state ≠ .refreshing .first := by decide
  obtain ⟨hdesk, outcome, -, hwoken, hcases⟩ :=
    overtaken_settle .inMemory _ ⟨.first, [0]⟩ .crashed hflight hovertaken
  refine ⟨hflight, hovertaken, hdesk, ?_⟩
  rcases hcases with ⟨h, c, -, -, hcurrent, rfl⟩ | ⟨hout, -⟩
  · cases hcurrent
    exact hwoken 0 .first false rfl
  · cases hout

/-- A caller waits, the session ends, and then the service cannot be reached: the
caller is told to try again, though nobody is signed in any more. -/
theorem signedOut_retryable :
    let t := (start (.restore .inMemory)).after
      [.signIn ⟨"old", "Bearer", none, none⟩, .spawn .first, .run 0, .signOut]
    let failed : Except CallError Credentials := .error (.transport (.connect "refused"))
    t.desk.flight = some ⟨.first, [0]⟩ ∧ t.desk.session.state = .loggedOut ∧
      ∃ refusal, refusal.retryable = true ∧
        (t.step (.settle 0 (.returned failed))).callers[0]? =
          some (.woken .first false (.error refusal)) :=
  ⟨rfl, rfl, _, rfl, rfl⟩

end Traffic

end SessionKeeper
