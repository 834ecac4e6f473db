import Mathlib
import SessionKeeper.Proofs.Client.Steps

/-! # Who ends whose session

A task that is told that the session is over either leaves the session alone
or ends whatever session there is.  `Stepped.expired` says which, from what the
task had done before:

* it is spared if the task had sent its request without credentials;
* in all other cases it is ended.  It does not matter then whether it is the
  session whose credentials the task had shown, or one that has begun since.

So the session is the same afterwards only if the request was anonymous, or if
there was no session left to end.  The module closes with a run for each side:
one in which a new session survives, and one in which a session ends that has
nothing to do with the request.

Mathlib gives the equations by which these two runs are computed. -/

namespace SessionKeeper

/-- Two sessions that are the same to an application: the same state, the same
credentials in use, and the same record in the store. -/
structure Session.Same (s s' : Session) : Prop where
  state : s'.state = s.state
  current : s'.current = s.current
  record : s'.store.text? = s.store.text?

theorem Session.Same.refl (s : Session) : s.Same s :=
  ⟨rfl, rfl, rfl⟩

/-- To end a session that is over, with no record left, changes nothing. -/
theorem Session.signOut_same_iff {s : Session} (h : s.Coherent) :
    s.Same s.signOut.2 ↔
      s.state = .loggedOut ∧ (s.store.attempt s.store.clear).text? = s.store.text? := by
  constructor
  · intro hsame
    have hstate := hsame.state
    have hrecord := hsame.record
    rw [signOut_state] at hstate
    rw [signOut_store] at hrecord
    exact ⟨hstate.symm, hrecord⟩
  · rintro ⟨hstate, hrecord⟩
    refine ⟨by rw [signOut_state, hstate], ?_, by rw [signOut_store, hrecord]⟩
    rw [signOut_current, h.current_of_loggedOut hstate]

/-- Who asks for the sign-in is nothing to an application. -/
theorem Session.same_claimPrompt_iff {s s' : Session} : s.Same s'.claimPrompt.2 ↔ s.Same s' := by
  constructor
  · intro h
    exact ⟨by simpa using h.state, by simpa using h.current, by simpa using h.record⟩
  · intro h
    exact ⟨by simpa using h.state, by simpa using h.current, by simpa using h.record⟩

namespace Client

/-! ### The step that tells a task -/

/-- What becomes of the session when task `n` is told that it is over. -/
inductive Expired (c : Client) (n : Nat) (c' : Client) : Prop where
  /-- The request was refused without credentials. -/
  | spared {t : Task} {r : Http.Request} (task : c.tasks[n]? = some t) (request : t.request = .ok r)
      (kind : r.kind = .regular) (stage : t.stage = .sent none)
      (session : c'.session =
        if c.session.isLoggedIn then c.session else c.session.claimPrompt.2)
  /-- Anything else. -/
  | ended {t : Task} {r : Http.Request} (task : c.tasks[n]? = some t) (request : t.request = .ok r)
      (shown : r.kind = .regular → t.stage ≠ .sent none)
      (session : c'.session = c.session.signOut.2.claimPrompt.2)

/-- A step ends task `n` and tells it that the session is over. -/
def Tells (c c' : Client) (n : Nat) : Prop :=
  ∃ e : CallError, e.isSessionExpired = true ∧ c'.settled = c.settled ++ [(n, .failed e)]

section tells

variable {c c' : Client} {n : Nat}

theorem not_tells_of_same (h : c'.settled = c.settled) : ¬ c.Tells c' n := by
  rintro ⟨e, -, hsettled⟩
  rw [h] at hsettled
  simp at hsettled

/-- Nobody is told but the task that ends. -/
theorem tells_finish {m : Nat} {o : Client.Outcome} (h : c.Tells c' n)
    (hc' : c'.settled = c.settled ++ [(m, o)]) :
    n = m ∧ ∃ e, o = .failed e ∧ e.isSessionExpired = true := by
  obtain ⟨e, he, hsettled⟩ := h
  rw [hc'] at hsettled
  -- two lists with one more end than the same list have the same last end
  obtain ⟨rfl, rfl⟩ := Prod.mk.inj (List.cons.inj (List.append_cancel_left hsettled)).1
  exact ⟨rfl, e, rfl, he⟩

theorem not_tells_surface {m : Nat} {e : CallError} (he : e.isSessionExpired = false) :
    ¬ c.Tells (c.surface m e) n := by
  intro h
  obtain ⟨-, e', heq, he'⟩ := tells_finish h (surface_settled c m e)
  cases heq
  rw [he] at he'
  cases he'

end tells

theorem not_tells_complete {c : Client} {n m : Nat} {purpose : Purpose}
    {response : Http.Response} : ¬ c.Tells (c.complete m purpose response) n := by
  intro h
  cases purpose with
  | exchange =>
    obtain ⟨-, e, heq, -⟩ := tells_finish h (finish_settled c m _)
    cases heq
  | signIn =>
    unfold complete at h
    cases hissued : Credentials.issuedBy response c.options.refreshCookieName with
    | error e =>
      simp only [hissued] at h
      obtain ⟨-, e', heq, he⟩ := tells_finish h (finish_settled c m _)
      cases heq
      obtain ⟨cause, rfl⟩ := internal_of_issuedBy hissued
      cases he
    | ok credentials =>
      simp only [hissued] at h
      obtain ⟨-, e', heq, -⟩ := tells_finish h (finish_settled _ m _)
      cases heq

/-- A task that goes on is told only if the session ends with it. -/
theorem Went.tells {c c' : Client} {n m : Nat} {r : Http.Request} (h : Went c m r c')
    (htells : c.Tells c' n) : n = m ∧ c'.session = c.session.signOut.2.claimPrompt.2 := by
  cases h with
  | sends authorized => exact absurd htells (not_tells_of_same rfl)
  | unsendable authorized =>
    obtain ⟨cause, rfl⟩ := internal_of_authorize authorized
    exact absurd htells (not_tells_surface rfl)
  | joins asked => exact absurd htells (not_tells_of_same rfl)
  | launches asked => exact absurd htells (not_tells_of_same rfl)
  | expelled =>
    obtain ⟨hn, -⟩ := tells_finish htells (expel_settled c m _)
    refine ⟨hn, ?_⟩
    show (c.expel m _).desk.session = _
    rw [expel_desk]

theorem Received.expired {c c' : Client} {n m : Nat} {t : Task} {r : Http.Request}
    (h : Received c m t r c') (htask : c.tasks[m]? = some t) (hrequest : t.request = .ok r)
    (htells : c.Tells c' n) : Expired c n c' := by
  cases h with
  | completes => exact absurd htells not_tells_complete
  | rejected kind stage =>
    have hsettled : ∃ o, (c.rejectAnonymous m).settled = c.settled ++ [(m, o)] := by
      unfold rejectAnonymous
      split
      · exact ⟨_, rfl⟩
      · exact ⟨_, by rw [finish_settled, promptSignIn_settled]⟩
    obtain ⟨o, ho⟩ := hsettled
    obtain ⟨rfl, -⟩ := tells_finish htells ho
    exact .spared htask hrequest kind stage (rejectAnonymous_session c n)
  | goesOn kind stage went =>
    obtain ⟨rfl, hsession⟩ := went.tells htells
    exact .ended htask hrequest (fun _ heq => by rw [stage] at heq; cases heq) hsession
  | @expelled e hopeless =>
    obtain ⟨rfl, -⟩ := tells_finish htells (expel_settled c m e)
    -- a regular request is hopeless only once it has been sent twice
    refine .ended htask hrequest (fun hkind hstage => ?_) ?_
    · rcases hopeless with hother | hresent
      · exact hother hkind
      · rw [hresent] at hstage
        cases hstage
    · show (c.expel n e).desk.session = _
      rw [expel_desk]
  | surfaced other => exact absurd htells (not_tells_surface other)
  | crashed =>
    obtain ⟨-, e, heq, -⟩ := tells_finish htells (finish_settled c m _)
    cases heq
  | ignored => exact absurd htells (not_tells_of_same rfl)

/-- What else a client holds does not matter. -/
theorem Expired.congr {c d c' : Client} {n : Nat} (h : Expired d n c') (like : Like c d) :
    Expired c n c' := by
  have hsession : d.session = c.session := congrArg SingleFlight.session like.desk
  cases h with
  | spared task request kind stage session =>
    exact .spared (like.tasks ▸ task) request kind stage (hsession ▸ session)
  | ended task request shown session =>
    exact .ended (like.tasks ▸ task) request shown (hsession ▸ session)

/-- **Step.**  A task that is told that the session is over is spared or ended
with it. -/
theorem Stepped.expired {c c' : Client} (h : Stepped c c') {n : Nat} (htells : c.Tells c' n) :
    Expired c n c' := by
  -- it is told the same as seen from any client that is like this one
  have hlike : ∀ {d}, Like c d → d.Tells c' n := fun like => by
    obtain ⟨e, he, hsettled⟩ := htells
    exact ⟨e, he, by rw [hsettled, like.settled]⟩
  cases h with
  | quiet desk settled => exact absurd htells (not_tells_of_same settled)
  | unbuildable like =>
    obtain ⟨-, e, heq, -⟩ := tells_finish (hlike like) (finish_settled _ _ _)
    cases heq
  | goesOn like task request stage went =>
    obtain ⟨rfl, hsession⟩ := went.tells (hlike like)
    have hexpired : Expired _ n c' :=
      .ended (like.tasks.symm ▸ task) request (fun _ => stage none) hsession
    exact hexpired.congr like
  | receives like task request received =>
    have hexpired := received.expired (like.tasks.symm ▸ task) request (hlike like)
    exact hexpired.congr like
  | lands like =>
    exact absurd (hlike like) (not_tells_of_same (settleFlight_settled _ _ _))
  | signsOut => exact absurd htells (not_tells_of_same (signOut_settled c))
  | stores store => exact absurd htells (not_tells_of_same rfl)

/-! ### The main theorem -/

/-- **Whose session is left alone.**  Take any run of a client and a step that
ends a regular request by telling it that the session is over.  The session is
the same after that step exactly if the request had been sent without
credentials, or if nobody is signed in and no record goes away.

In particular, if the request had shown credentials, nobody is signed in
afterwards, whichever session there was. -/
theorem expiry_spares_iff (options : Options) (store : Store) (now : Time.Instant)
    (es : List Event) (e : Event) (n : Nat) (t : Task) (r : Http.Request)
    (htask : ((Client.new options store now).after es).tasks[n]? = some t)
    (hrequest : t.request = .ok r) (hkind : r.kind = .regular)
    (htells : ((Client.new options store now).after es).Tells
      (((Client.new options store now).after es).step e) n) :
    let before := ((Client.new options store now).after es).session
    let after := (((Client.new options store now).after es).step e).session
    (before.Same after ↔ t.stage = .sent none ∨
      before.state = .loggedOut ∧
        (before.store.attempt before.store.clear).text? = before.store.text?) ∧
    (t.stage ≠ .sent none → after.state = .loggedOut ∧ after.current = none ∧
      after.store = before.store.attempt before.store.clear) := by
  intro before after
  have hsound := sound_after (sound_new options store now) es
  cases (step_spec hsound e).expired htells with
  | spared task request kind stage session =>
    rw [htask] at task
    cases task
    have hsame : before.Same after := by
      show before.Same (((Client.new options store now).after es).step e).session
      rw [session]
      split
      · exact .refl before
      · exact Session.same_claimPrompt_iff.mpr (.refl before)
    exact ⟨⟨fun _ => Or.inl stage, fun _ => hsame⟩, fun hshown => absurd stage hshown⟩
  | ended task request shown session =>
    rw [htask] at task
    cases task
    rw [hrequest] at request
    cases request
    have hafter : after = before.signOut.2.claimPrompt.2 := session
    have hcoherent : before.Coherent := hsound.coherent
    rw [hafter]
    refine ⟨?_, fun _ => ⟨by simp, by simp, by simp⟩⟩
    rw [Session.same_claimPrompt_iff, Session.signOut_same_iff hcoherent]
    exact ⟨Or.inr, fun h => h.resolve_left (shown hkind)⟩

/-! ### Two runs -/

/-- A request of an application. -/
def page : Http.Request :=
  { method := "GET", path := "/v1/api/tags" }

/-- The answer to a sign-in that succeeds. -/
def granting (token : String) : Reply :=
  .response
    { status := 200
      body := Text.bytesOf ("\x7b\"accessToken\":\"" ++ token ++ "\",\"type\":\"Bearer\"\x7d") }

/-- The answer to a request that is refused. -/
def denying : Reply :=
  .response { status := 401 }

/-- The start of 1970. -/
def epoch : Time.Instant :=
  ⟨0, 0, by decide, by decide, by decide, by decide⟩

/-- Somebody has signed in while a request without credentials was on its way. -/
def anonymousClient : Client :=
  (Client.new {} .inMemory epoch).after
    [.spawn (.ok page), .go 0, .signIn "a@b.c" "pw", .go 0, .reply 1 (granting "one")]

/-- The request is refused, and the session that has begun is left alone. -/
theorem expiry_spares_anonymous :
    anonymousClient.tasks[0]? = some ⟨.exchange, .ok page, .sent none⟩ ∧
    page.kind = .regular ∧ anonymousClient.Tells (anonymousClient.step (.reply 0 denying)) 0 ∧
    anonymousClient.session.state = .loggedIn .first ∧
    anonymousClient.session.Same (anonymousClient.step (.reply 0 denying)).session := by
  have htask : anonymousClient.tasks[0]? = some ⟨.exchange, .ok page, .sent none⟩ := by cbv
  have htells : anonymousClient.Tells (anonymousClient.step (.reply 0 denying)) 0 :=
    ⟨.sentTooEarly, rfl, by cbv⟩
  have hiff := (expiry_spares_iff {} .inMemory epoch _ (.reply 0 denying) 0 _ page htask rfl rfl
    htells).1
  exact ⟨htask, rfl, htells, by decide +kernel, hiff.mpr (Or.inl rfl)⟩

/-- A request has shown the credentials of the first session and, when they were
refused, those of the second one, which had begun meanwhile.  Then somebody has
signed in for the third time. -/
def overtakenClient : Client :=
  (Client.new {} .inMemory epoch).after
    [.signIn "a@b.c" "pw", .go 0, .reply 0 (granting "one"), .spawn (.ok page), .go 0,
      .signIn "a@b.c" "pw", .go 0, .reply 2 (granting "two"), .reply 1 denying,
      .signIn "a@b.c" "pw", .go 0, .reply 4 (granting "three")]

/-- The request is refused again, and the third session ends, whose credentials
it never showed: nobody is signed in any more, and the record is gone. -/
theorem expiry_ends_newer_session :
    overtakenClient.tasks[1]? = some ⟨.exchange, .ok page, .resent⟩ ∧
    overtakenClient.sent.map (fun s => (s.owner, s.request.authorization?)) =
      [(.task 0, none), (.task 1, some "Bearer one"), (.task 2, none),
        (.task 1, some "Bearer two"), (.task 3, none)] ∧
    overtakenClient.session.state = .loggedIn ⟨3⟩ ∧
    overtakenClient.session.current = some ⟨⟨3⟩, ⟨"three", "Bearer", none, none⟩⟩ ∧
    overtakenClient.session.store.text?.isSome = true ∧
    overtakenClient.Tells (overtakenClient.step (.reply 3 denying)) 1 ∧
    ¬ overtakenClient.session.Same (overtakenClient.step (.reply 3 denying)).session ∧
    (overtakenClient.step (.reply 3 denying)).session.state = .loggedOut ∧
    (overtakenClient.step (.reply 3 denying)).session.current = none ∧
    (overtakenClient.step (.reply 3 denying)).session.store.text? = none := by
  have hbefore : overtakenClient.session.state = .loggedIn ⟨3⟩ := by decide +kernel
  have hafter : (overtakenClient.step (.reply 3 denying)).session.state = .loggedOut := by
    decide +kernel
  refine ⟨by cbv, by decide +kernel, hbefore, by decide +kernel, by decide +kernel,
    ⟨.rejectedAgain, rfl, by cbv⟩, fun hsame => ?_, hafter, by decide +kernel, by decide +kernel⟩
  have hstate := hsame.state
  rw [hbefore, hafter] at hstate
  cases hstate

end Client

end SessionKeeper
