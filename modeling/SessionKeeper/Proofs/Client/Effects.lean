import SessionKeeper.Proofs.Client.Endings
import SessionKeeper.Proofs.Client.Reports

/-! # What an event does to the session

A session is changed by few of the things that happen to a client: somebody signs in, a
refresh begins or ends, the session is ended, or a task that had shown no credentials
asks for the sign-in.  `Affects` lists them with their causes, and `affects_spec` says
that the list is complete.  What later modules prove about the session, its store and
the prompts is read off it.

New credentials always come from an answer of the service, and so they have an access
token (`Credentials.accessToken_of_issuedBy`).

The last section is about times in which nobody is signed in (`Outside`).

No more of Mathlib than the imports bring. -/

namespace SessionKeeper

open SingleFlight (Landed)

/-! ### Issued credentials -/

/-- Credentials that a service issues have an access token. -/
theorem Credentials.accessToken_of_issuedBy {r : Http.Response} {name : String} {x : Credentials}
    (h : Credentials.issuedBy r name = .ok x) : x.accessToken ≠ "" := by
  unfold Credentials.issuedBy at h
  split at h
  · cases h
  · split at h
    · cases h
    · rename_i hsome
      cases h
      simpa using hsome

theorem RefreshEndpoint.accessToken_of_outcome {endpoint : RefreshEndpoint}
    {answer : Except Http.TransportFault Http.Response} {x : Credentials}
    (h : endpoint.outcome answer = .ok x) : x.accessToken ≠ "" := by
  unfold RefreshEndpoint.outcome at h
  split at h
  · cases h
  · split at h
    · exact Credentials.accessToken_of_issuedBy h
    · cases h

namespace Client

/-! ### Changes of a session -/

/-- Somebody signs in. -/
def SignsIn (c : Client) (e : Event) : Prop :=
  ∃ n g, (c.step e).settled = c.settled ++ [(n, .signedIn g)]

/-- The session is ended: the application wishes it, or a task fails for good. -/
def SignsOut (c : Client) (e : Event) : Prop :=
  e = .signOut ∨ ∃ n error, Dismissed c e n error

/-- What becomes of the session in an event, and of the prompts. -/
inductive Affects (c : Client) (e : Event) (c' : Client) : Prop where
  /-- Nothing. -/
  | spares (session : c'.session = c.session) (prompts : c'.signInPrompts = c.signInPrompts)
  | refreshes {g : Generation} (state : c.session.state = .loggedIn g)
      (session : c'.session = c.session.publish (.refreshing g))
      (prompts : c'.signInPrompts = c.signInPrompts)
  | signsIn {n : Nat} {x : Credentials} (token : x.accessToken ≠ "")
      (settled : c'.settled = c.settled ++ [(n, .signedIn c.session.nextGeneration)])
      (session : c'.session = (c.session.signIn x).2)
      (prompts : c'.signInPrompts = c.signInPrompts)
  /-- A flight ends. -/
  | lands {flight : SingleFlight.Flight} {result : Except CallError Credentials}
      {outcome : SingleFlight.Outcome} {s : Session} (under : c.desk.flight = some flight)
      (token : ∀ x, result = .ok x → x.accessToken ≠ "")
      (landed : Landed c.session flight.generation result outcome s) (session : c'.session = s)
      (flight : c'.desk.flight = none) (prompts : c'.signInPrompts = c.signInPrompts)
  | signsOut (cause : SignsOut c e) (session : c'.session = c.signOut.session)
      (prompts : c'.signInPrompts = c.signOut.signInPrompts)
  /-- Somebody was refused without having shown credentials. -/
  | rejects {n : Nat} (cause : Rejected c e n) (session : c'.session = c.session.claimPrompt.2)
      (prompts : c'.signInPrompts = c.promptSignIn.signInPrompts)
  | stores {store : Store} (event : e = .store store)
      (session : c'.session = { c.session with store })
      (prompts : c'.signInPrompts = c.signInPrompts)

/-! ### The parts of an event -/

section parts

variable {c d : Client} {e : Event} {n : Nat}

theorem surface_session (error : CallError) : (c.surface n error).session = c.session :=
  congrArg SingleFlight.session (surface_desk c n error)

theorem surface_signInPrompts (error : CallError) :
    (c.surface n error).signInPrompts = c.signInPrompts := by
  unfold surface
  split <;> rfl

theorem promptSignIn_signInPrompts : c.promptSignIn.signInPrompts =
    c.signInPrompts + if c.session.isLoggedIn || c.session.prompted then 0 else 1 := by
  unfold promptSignIn Session.claimPrompt
  split <;> rename_i h
  · split at h
    · cases h
    · rename_i hfree
      simp only [hfree]
      rfl
  · split at h
    · rename_i htaken
      simp only [htaken, if_true]
      rfl
    · cases h

/-- The prompt is a matter of the session alone. -/
theorem promptSignIn_signInPrompts_congr (hsession : d.session = c.session)
    (hprompts : d.signInPrompts = c.signInPrompts) :
    d.promptSignIn.signInPrompts = c.promptSignIn.signInPrompts := by
  rw [promptSignIn_signInPrompts, promptSignIn_signInPrompts, hsession, hprompts]

/-- While somebody is signed in the prompt is not granted, and the session stays as it is. -/
theorem rejectAnonymous_claims : (c.rejectAnonymous n).session = c.session.claimPrompt.2 := by
  rw [rejectAnonymous_session]
  split
  · rename_i hin
    simp only [Session.claimPrompt, hin, Bool.true_or, if_true]
  · rfl

theorem rejectAnonymous_signInPrompts :
    (c.rejectAnonymous n).signInPrompts = c.promptSignIn.signInPrompts := by
  unfold rejectAnonymous
  split
  · rename_i hin
    rw [promptSignIn_signInPrompts, hin]
    rfl
  · rfl

/-- To end a session is a matter of the session alone. -/
theorem signOut_session_congr (hsession : d.session = c.session) :
    d.signOut.session = c.signOut.session := by
  rw [signOut_session, signOut_session, hsession]

theorem signOut_signInPrompts_congr (hsession : d.session = c.session)
    (hprompts : d.signInPrompts = c.signInPrompts) :
    d.signOut.signInPrompts = c.signOut.signInPrompts := by
  rw [signOut_signInPrompts, signOut_signInPrompts, hsession, hprompts]

/-- A flight that an event concerns is the one under way. -/
theorem Ledger.flight_of_calling (hc : c.Ledger) {g : Generation} (h : c.calling? e = some g) :
    ∃ flight, c.desk.flight = some flight ∧ flight.generation = g := by
  obtain ⟨hbefore, -⟩ := calls_noting_of_some hc.posted.keys h hc.length_calls_le
  refine hc.flight_of_mem ?_
  rw [hbefore]
  exact List.mem_singleton_self g

end parts

/-- Credentials that an event brings have an access token. -/
theorem Brings.token {c : Client} {e : Event} {result : Except CallError Credentials}
    (h : Brings c e result) {x : Credentials} (hx : result = .ok x) : x.accessToken ≠ "" := by
  cases h with
  | @reply id reply =>
    cases reply with
    | crash => cases hx
    | fault f =>
      have houtcome : c.options.endpoint.outcome (.error f) = .ok x := hx
      exact RefreshEndpoint.accessToken_of_outcome houtcome
    | response r =>
      have houtcome : c.options.endpoint.outcome (.ok r) = .ok x := hx
      exact RefreshEndpoint.accessToken_of_outcome houtcome
  | unbuilt => cases hx

/-- Of the seven ways in which a task ends three are something to the session. -/
theorem Concludes.affects {c c' : Client} {e : Event} {n : Nat} {t : Task}
    (h : Concludes c e n t c') : Affects c e c' := by
  have hsession := noting_session c e
  have hprompts := noting_signInPrompts c e
  cases h with
  | unbuildable request => exact .spares hsession hprompts
  | unsendable authorized =>
    exact .spares ((surface_session _).trans hsession) ((surface_signInPrompts _).trans hprompts)
  | @answered id response event success =>
    unfold complete
    cases t.purpose with
    | exchange => exact .spares hsession hprompts
    | signIn =>
      cases hissued : Credentials.issuedBy response (c.noting e).options.refreshCookieName with
      | error error => exact .spares hsession hprompts
      | ok x =>
        refine .signsIn (n := n) (x := x) (Credentials.accessToken_of_issuedBy hissued)
          ?_ ?_ hprompts
        · show (c.noting e).settled ++ [(n, .signedIn (c.noting e).session.nextGeneration)] = _
          rw [noting_settled, hsession]
        · show ((c.noting e).session.signIn x).2 = _
          rw [hsession]
  | failed event result other =>
    exact .spares ((surface_session _).trans hsession) ((surface_signInPrompts _).trans hprompts)
  | crashed event => exact .spares hsession hprompts
  | rejected rejected =>
    refine .rejects rejected ?_ ?_
    · rw [rejectAnonymous_claims, hsession]
    · rw [rejectAnonymous_signInPrompts, promptSignIn_signInPrompts_congr hsession hprompts]
  | dismissed dismissed =>
    exact .signsOut (Or.inr ⟨n, _, dismissed⟩) (signOut_session_congr hsession)
      (signOut_signInPrompts_congr hsession hprompts)

/-- **Step.**  There is nothing else that can become of a session. -/
theorem affects_spec {c : Client} (hc : c.Ledger) (e : Event) : Affects c e (c.step e) := by
  have hpassed := passed_spec hc e
  generalize c.step e = c' at hpassed
  cases hpassed with
  | continues continues =>
    rcases continues.session with hsame | ⟨g, hstate, hrefreshing⟩
    · exact .spares hsame continues.signInPrompts
    · exact .refreshes hstate hrefreshing continues.signInPrompts
  | concludes task concludes => exact concludes.affects
  | lands calling brings =>
    obtain ⟨flight, hflight, rfl⟩ := hc.flight_of_calling calling
    have hs : (c.noting e).desk.Sound := by rw [noting_desk]; exact hc.desk
    obtain ⟨outcome, s, hlanded, heq⟩ := settleFlight_of_flight (c.noting e) hs
      ((congrArg SingleFlight.flight (noting_desk c e)).trans hflight) _
    rw [noting_session] at hlanded
    rw [heq]
    exact .lands hflight (fun x => brings.token) hlanded rfl rfl (noting_signInPrompts c e)
  | signsOut event => exact .signsOut (Or.inl event) rfl rfl
  | stores event => exact .stores event rfl rfl

/-- What becomes of the session in an event after which nobody is signed in. -/
inductive Leaves (c : Client) (e : Event) (c' : Client) : Prop where
  | spares (session : c'.session = c.session) (prompts : c'.signInPrompts = c.signInPrompts)
  /-- It ends with a flight. -/
  | lands (session : c'.session = c.session.ended) (prompts : c'.signInPrompts = c.signInPrompts)
  | signsOut (cause : SignsOut c e)
  | rejects {n : Nat} (cause : Rejected c e n) (session : c'.session = c.session.claimPrompt.2)
  | stores {store : Store} (session : c'.session = { c.session with store })
      (prompts : c'.signInPrompts = c.signInPrompts)

theorem Affects.leaves {c c' : Client} {e : Event} (h : Affects c e c')
    (hout : c'.session.isLoggedIn = false) : Leaves c e c' := by
  have hstate := SingleFlight.isLoggedIn_eq_false.mp hout
  cases h with
  | spares session prompts => exact .spares session prompts
  | refreshes state session prompts =>
    rw [session] at hstate
    cases hstate
  | signsIn token settled session prompts =>
    rw [session] at hstate
    cases hstate
  | lands under token landed session flight prompts =>
    cases landed with
    | replaced state returned =>
      rw [session] at hstate
      cases hstate
    | failed state returned => exact .lands session prompts
    -- the session has left the flight behind
    | overtaken state newer current => exact .spares session prompts
    | ended state => exact .spares session prompts
  | signsOut cause session prompts => exact .signsOut cause
  | rejects cause session prompts => exact .rejects cause session
  | stores event session prompts => exact .stores session prompts

/-! ### Beginnings and endings of a session -/

section endings

variable {c : Client} {e : Event} {n : Nat}

/-- Whoever is told that he is signed in is signed in. -/
theorem SignsIn.isLoggedIn (hc : c.Ledger) (h : SignsIn c e) :
    (c.step e).session.isLoggedIn = true := by
  obtain ⟨n, g, hsettled⟩ := h
  rcases reports_spec hc e with ⟨hsame, -⟩ | ⟨m, o, hreports⟩
  · rw [hsame] at hsettled
    simp at hsettled
  · -- the last outcome is the one that is reported
    rw [hreports.settled] at hsettled
    cases List.append_cancel_left hsettled
    exact hreports.signedIn g rfl

theorem SignsOut.session (hc : c.Ledger) (h : SignsOut c e) :
    (c.step e).session = c.signOut.session := by
  rcases h with rfl | ⟨n, error, hdismissed⟩
  · rfl
  · rw [hdismissed.step_eq hc]
    exact signOut_session_congr (noting_session c e)

theorem SignsOut.signInPrompts (hc : c.Ledger) (h : SignsOut c e) :
    (c.step e).signInPrompts = c.signOut.signInPrompts := by
  rcases h with rfl | ⟨n, error, hdismissed⟩
  · rfl
  · rw [hdismissed.step_eq hc]
    exact signOut_signInPrompts_congr (noting_session c e) (noting_signInPrompts c e)

theorem Rejected.session (hc : c.Ledger) (h : Rejected c e n) :
    (c.step e).session = c.session.claimPrompt.2 := by
  rw [h.step_eq hc, rejectAnonymous_claims, noting_session]

theorem Rejected.signInPrompts (hc : c.Ledger) (h : Rejected c e n) :
    (c.step e).signInPrompts = c.promptSignIn.signInPrompts := by
  rw [h.step_eq hc, rejectAnonymous_signInPrompts]
  exact promptSignIn_signInPrompts_congr (noting_session c e) (noting_signInPrompts c e)

end endings

/-! ### Times without a session -/

/-- After each event of a run from `c` nobody is signed in. -/
inductive Outside : Client → List Event → Prop where
  | nil (c : Client) : Outside c []
  | cons {c : Client} {e : Event} {es : List Event} (out : (c.step e).session.isLoggedIn = false)
      (rest : Outside (c.step e) es) : Outside c (e :: es)

theorem outside_cons_iff {c : Client} {e : Event} {es : List Event} :
    (c.step e).session.isLoggedIn = false ∧ Outside (c.step e) es ↔ Outside c (e :: es) := by
  constructor
  · rintro ⟨out, rest⟩
    exact .cons out rest
  · rintro (_ | ⟨out, rest⟩)
    exact ⟨out, rest⟩

instance Outside.decidable : (c : Client) → (es : List Event) → Decidable (Outside c es)
  | c, [] => .isTrue (.nil c)
  | c, e :: es =>
    have := Outside.decidable (c.step e) es
    decidable_of_iff _ outside_cons_iff

/-- In such a time nobody has signed in. -/
theorem Outside.not_signsIn {c : Client} {es : List Event} (hc : c.Ledger) (h : Outside c es) :
    ¬ During c es SignsIn := by
  induction h with
  | nil c => exact During.nil
  | cons out rest ih =>
    rw [During.cons_iff]
    rintro (hsigns | hlater)
    · have hin := hsigns.isLoggedIn hc
      rw [out] at hin
      cases hin
    · exact ih (hc.step _) hlater

end Client

end SessionKeeper
