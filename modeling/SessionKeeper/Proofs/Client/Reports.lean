import Mathlib.Data.List.Induction
import SessionKeeper.Proofs.Client.Verdicts

/-! # What is reported when a task ends

A task ends with one outcome (`Reports`).

* If the outcome is a failure that nobody expected, the application is told of it once,
  and otherwise it is not.  So over a run there are as many notices as there are such
  outcomes (`notices_after`).
* That the service refuses a request is never an outcome itself: what is reported is what
  it means for the session (`unexpired_after`).
* Whoever is told that he is signed in is signed in.

Mathlib gives the induction over a run from its end. -/

namespace SessionKeeper

/-- Whether a call failed with a status that nobody expected. -/
def CallError.isUnexpected : CallError → Bool
  | .unexpected _ _ => true
  | _ => false

/-- Whether the application is told of an outcome as a failure. -/
def Client.Outcome.isUnexpected : Client.Outcome → Bool
  | .failed e => e.isUnexpected
  | _ => false

namespace Client

/-- Task `n` ends with an outcome between `c` and `c'`. -/
structure Reports (c c' : Client) (n : Nat) (o : Client.Outcome) : Prop where
  settled : c'.settled = c.settled ++ [(n, o)]
  notices : c'.failureNotices = c.failureNotices + if o.isUnexpected then 1 else 0
  unexpired : o ≠ .failed .authorizationExpired
  signedIn : ∀ g, o = .signedIn g → c'.session.isLoggedIn = true

section reports

variable {c d c' : Client} {e : Event} {n : Nat} {t : Task}

theorem Reports.congr {o : Client.Outcome} (h : Reports d c' n o) (hsettled : d.settled = c.settled)
    (hnotices : d.failureNotices = c.failureNotices) : Reports c c' n o :=
  ⟨hsettled ▸ h.settled, hnotices ▸ h.notices, h.unexpired, h.signedIn⟩

/-- An end that is no failure is told to nobody but the task. -/
theorem finish_reports {o : Client.Outcome} (ho : ∀ error, o ≠ .failed error)
    (hin : ∀ g, o = .signedIn g → c.session.isLoggedIn = true) :
    Reports c (c.finish n o) n o where
  settled := finish_settled c n o
  notices := by
    cases o with
    | failed error => exact absurd rfl (ho error)
    | _ => rfl
  unexpired := ho _
  signedIn := hin

/-- A failure that is handed on is told to the application if nobody expected it. -/
theorem surface_reports {error : CallError} (h : error ≠ .authorizationExpired) :
    Reports c (c.surface n error) n (.failed error) where
  settled := surface_settled c n error
  notices := by
    cases error with
    | unexpected status body => rfl
    | _ => rfl
  unexpired heq := h (by cases heq; rfl)
  signedIn g heq := by cases heq

theorem expel_reports {error : CallError} (h : error.isSessionExpired = true) :
    Reports c (c.expel n error) n (.failed error) where
  settled := expel_settled c n error
  notices := by
    show c.signOut.failureNotices = _
    cases error with
    | sessionExpired retryable reason => exact signOut_failureNotices c
    | _ => cases h
  unexpired heq := by
    cases heq
    cases h
  signedIn g heq := by cases heq

theorem rejectAnonymous_reports : ∃ o, Reports c (c.rejectAnonymous n) n o := by
  unfold rejectAnonymous
  split
  · exact ⟨_, rfl, rfl, nofun, nofun⟩
  · refine ⟨.failed .signInRequired, ?_, ?_, nofun, nofun⟩
    · rw [finish_settled, promptSignIn_settled]
    · exact promptSignIn_failureNotices c

theorem complete_reports (purpose : Purpose) (response : Http.Response) :
    ∃ o, Reports c (c.complete n purpose response) n o := by
  unfold complete
  cases purpose with
  | exchange => exact ⟨_, finish_reports nofun nofun⟩
  | signIn =>
    cases hissued : Credentials.issuedBy response c.options.refreshCookieName with
    | error error =>
      obtain ⟨cause, rfl⟩ := internal_of_issuedBy hissued
      exact ⟨_, rfl, rfl, nofun, nofun⟩
    | ok x => exact ⟨_, rfl, rfl, nofun, fun _ _ => rfl⟩

/-- Whoever is dismissed is told that the session is over. -/
theorem Dismissed.isSessionExpired {error : CallError} (h : Dismissed c e n error) :
    error.isSessionExpired = true := by
  cases h with
  | unrenewed hears => rfl
  | _ => rfl

theorem Concludes.reports (h : Concludes c e n t c') : ∃ o, Reports c c' n o := by
  have hsettled := noting_settled c e
  have hnotices := noting_failureNotices c e
  cases h with
  | @unbuildable error request =>
    exact ⟨.unbuildable error, .congr (finish_reports nofun nofun) hsettled hnotices⟩
  | unsendable authorized =>
    obtain ⟨cause, rfl⟩ := internal_of_authorize authorized
    have hother : CallError.internal cause ≠ .authorizationExpired := nofun
    exact ⟨_, (surface_reports hother).congr hsettled hnotices⟩
  | answered event success =>
    obtain ⟨o, hreports⟩ := complete_reports (c := c.noting e) (n := n) t.purpose _
    exact ⟨o, hreports.congr hsettled hnotices⟩
  | failed event result other => exact ⟨_, (surface_reports other).congr hsettled hnotices⟩
  | crashed event => exact ⟨.crashed, .congr (finish_reports nofun nofun) hsettled hnotices⟩
  | rejected rejected =>
    obtain ⟨o, hreports⟩ := rejectAnonymous_reports (c := c.noting e) (n := n)
    exact ⟨o, hreports.congr hsettled hnotices⟩
  | dismissed dismissed =>
    exact ⟨_, (expel_reports dismissed.isSessionExpired).congr hsettled hnotices⟩

/-- **Step.**  An event ends one task and reports its outcome, or reports nothing. -/
theorem reports_spec (hc : c.Ledger) (e : Event) :
    (c.step e).settled = c.settled ∧ (c.step e).failureNotices = c.failureNotices ∨
      ∃ n o, Reports c (c.step e) n o := by
  have hpassed := passed_spec hc e
  generalize c.step e = c' at hpassed
  cases hpassed with
  | continues continues => exact Or.inl ⟨continues.settled, continues.failureNotices⟩
  | concludes task concludes => exact Or.inr ⟨_, concludes.reports⟩
  | lands calling brings =>
    refine Or.inl ⟨?_, ?_⟩
    · rw [settleFlight_settled, noting_settled]
    · rw [settleFlight_failureNotices, noting_failureNotices]
  | signsOut event => exact Or.inl ⟨signOut_settled c, signOut_failureNotices c⟩
  | stores event => exact Or.inl ⟨rfl, rfl⟩

/-- **Run.**  The application is told of every failure that nobody expected, and of
nothing else. -/
theorem notices_after (options : Options) (store : Store) (now : Time.Instant) (es : List Event) :
    let c := (Client.new options store now).after es
    c.failureNotices = (c.settled.filter (·.2.isUnexpected)).length := by
  induction es using List.reverseRecOn with
  | nil => rfl
  | append_singleton es e ih =>
    intro c
    have hc : c = ((Client.new options store now).after es).step e := after_concat _ es e
    rw [hc]
    rcases reports_spec ((Ledger.new options store now).after es) e with ⟨hsettled, hnotices⟩ |
      ⟨n, o, hreports⟩
    · rw [hsettled, hnotices]
      exact ih
    · rw [hreports.settled, hreports.notices, List.filter_append, List.length_append, ih]
      cases h : o.isUnexpected <;> simp [h]

/-- **Run.**  No task ends with the refusal of a request. -/
theorem unexpired_after (options : Options) (store : Store) (now : Time.Instant)
    (es : List Event) (n : Nat) :
    (n, .failed .authorizationExpired) ∉ ((Client.new options store now).after es).settled := by
  induction es using List.reverseRecOn with
  | nil => exact List.not_mem_nil
  | append_singleton es e ih =>
    rw [after_concat]
    rcases reports_spec ((Ledger.new options store now).after es) e with ⟨hsettled, -⟩ |
      ⟨m, o, hreports⟩
    · rwa [hsettled]
    · rw [hreports.settled, List.mem_append, List.mem_singleton]
      rintro (hbefore | hnow)
      · exact ih hbefore
      · cases hnow
        exact hreports.unexpired rfl

end reports

end Client

end SessionKeeper
