import SessionKeeper.Proofs.Client.Expiry
import SessionKeeper.Proofs.Client.Reports

/-! # What is handed on as it is

A call ends with the reply to what it has sent last, unless that is a refusal.  What it
returns then is told by the reply alone (`Returns`): a response that is a success is
returned as it came, a fault as a fault, and any other status as the failure that it is.
It makes no difference whether the request was sent once or twice, of which kind it is, or
what has become of the session meanwhile, and the session stays as it is
(`passed_through`).

A sign-in makes one thing more of what its call has returned: it reads the response for the
credentials that it issues (`Makes`).

No more of Mathlib than the imports bring. -/

namespace SessionKeeper

namespace Client

/-- What a call returns that ends with a reply. -/
inductive Returns : Reply → Client.Outcome → Prop where
  | response {r : Http.Response} (success : 200 ≤ r.status ∧ r.status ≤ 299) :
      Returns (.response r) (.response r)
  | fault (f : Http.TransportFault) : Returns (.fault f) (.failed (.transport f))
  /-- The service refuses the request, but not the credentials. -/
  | validation {r : Http.Response} (status : 400 ≤ r.status ∧ r.status ≤ 499)
      (other : r.status ≠ 401) :
      Returns (.response r) (.failed (.validation r.status (Text.lossy r.body)))
  | unexpected {r : Http.Response} (failure : ¬ (200 ≤ r.status ∧ r.status ≤ 299))
      (other : ¬ (400 ≤ r.status ∧ r.status ≤ 499)) :
      Returns (.response r) (.failed (.unexpected r.status (Text.lossy r.body)))

/-- What a task makes of what its call has returned, and of the session. -/
inductive Makes (options : Options) (s : Session) :
    Purpose → Client.Outcome → Client.Outcome → Session → Prop where
  | exchange (o : Client.Outcome) : Makes options s .exchange o o s
  | failed (error : CallError) : Makes options s .signIn (.failed error) (.failed error) s
  | unissued {r : Http.Response} {error : CallError}
      (issued : Credentials.issuedBy r options.refreshCookieName = .error error) :
      Makes options s .signIn (.response r) (.failed error) s
  | issued {r : Http.Response} {x : Credentials}
      (issued : Credentials.issuedBy r options.refreshCookieName = .ok x) :
      Makes options s .signIn (.response r) (.signedIn s.nextGeneration) (s.signIn x).2

/-- An exchange hands on what its call has returned. -/
theorem Makes.of_exchange {options : Options} {s s' : Session} {o o' : Client.Outcome}
    (h : Makes options s .exchange o o' s') : o' = o ∧ s' = s := by
  cases h
  exact ⟨rfl, rfl⟩

/-- Between `c` and `c'` the call of task `n` returns, and nothing else happens. -/
structure HandsOn (c : Client) (n : Nat) (purpose : Purpose) (o : Client.Outcome) (c' : Client) :
    Prop where
  made : ∃ o', Makes c.options c.session purpose o o' c'.session ∧
    c'.settled = c.settled ++ [(n, o')]
  /-- The application is told of it if nobody expected it. -/
  failureNotices : c'.failureNotices = c.failureNotices + if o.isUnexpected then 1 else 0
  signInPrompts : c'.signInPrompts = c.signInPrompts
  flight : c'.desk.flight = c.desk.flight
  /-- No step is enabled by it. -/
  ready : c'.ready = c.ready
  sent : c'.sent = c.sent

section returns

variable {reply : Reply} {o : Client.Outcome}

/-- Every reply but a refusal ends the call that waits for it. -/
theorem exists_returns (hcrash : reply ≠ .crash)
    (hrefusal : ∀ r, reply = .response r → r.status ≠ 401) : ∃ o, Returns reply o := by
  cases reply with
  | crash => exact absurd rfl hcrash
  | fault f => exact ⟨_, .fault f⟩
  | response r =>
    by_cases hsuccess : 200 ≤ r.status ∧ r.status ≤ 299
    · exact ⟨_, .response hsuccess⟩
    · by_cases hvalidation : 400 ≤ r.status ∧ r.status ≤ 499
      · exact ⟨_, .validation hvalidation (hrefusal r rfl)⟩
      · exact ⟨_, .unexpected hsuccess hvalidation⟩

theorem isSuccess_iff {r : Http.Response} :
    r.isSuccess = true ↔ 200 ≤ r.status ∧ r.status ≤ 299 := by
  simp only [Http.Response.isSuccess, Bool.and_eq_true, decide_eq_true_eq]
  omega

/-- The client takes a reply for what it is. -/
theorem Returns.cases_result (h : Returns reply o) :
    (∃ r, o = .response r ∧ reply.result = .ok r) ∨
      ∃ error, o = .failed error ∧ error ≠ .authorizationExpired ∧
        reply.result = .error (.failed error) := by
  cases h with
  | response success =>
    exact Or.inl ⟨_, rfl, result_eq_ok_iff.mpr ⟨rfl, isSuccess_iff.mpr success⟩⟩
  | fault f => exact Or.inr ⟨_, rfl, by simp, rfl⟩
  | @validation r status other =>
    have hfailure : ¬ r.isSuccess = true := by
      rw [isSuccess_iff]
      omega
    refine Or.inr ⟨_, rfl, by simp, ?_⟩
    rw [Reply.result, if_neg hfailure, CallError.ofResponse, CallError.ofStatus, if_neg other,
      if_pos status]
    rfl
  | @unexpected r failure other =>
    have hfailure : ¬ r.isSuccess = true := by rwa [isSuccess_iff]
    have hrefusal : r.status ≠ 401 := by omega
    refine Or.inr ⟨_, rfl, by simp, ?_⟩
    rw [Reply.result, if_neg hfailure, CallError.ofResponse, CallError.ofStatus, if_neg hrefusal,
      if_neg other]
    rfl

end returns

/-! ### One event -/

section handsOn

variable {c : Client} {n id : Nat} {t : Task} {reply : Reply} {o : Client.Outcome}

theorem surface_handsOn (c : Client) (n : Nat) (purpose : Purpose) (error : CallError) :
    HandsOn c n purpose (.failed error) (c.surface n error) := by
  have hmakes : Makes c.options c.session purpose (.failed error) (.failed error) c.session := by
    cases purpose with
    | exchange => exact .exchange _
    | signIn => exact .failed error
  cases error with
  | unexpected status body => exact ⟨⟨_, hmakes, rfl⟩, rfl, rfl, rfl, rfl, rfl⟩
  | _ => exact ⟨⟨_, hmakes, rfl⟩, rfl, rfl, rfl, rfl, rfl⟩

theorem complete_handsOn (c : Client) (n : Nat) (purpose : Purpose) (r : Http.Response) :
    HandsOn c n purpose (.response r) (c.complete n purpose r) := by
  unfold complete
  cases purpose with
  | exchange => exact ⟨⟨_, .exchange _, rfl⟩, rfl, rfl, rfl, rfl, rfl⟩
  | signIn =>
    cases hissued : Credentials.issuedBy r c.options.refreshCookieName with
    | error error => exact ⟨⟨_, .unissued hissued, rfl⟩, rfl, rfl, rfl, rfl, rfl⟩
    | ok x => exact ⟨⟨_, .issued hissued, rfl⟩, rfl, rfl, rfl, rfl, rfl⟩

/-- **Step.**  A reply that is no refusal ends the call that waits for it, whether it is the
first or the second that the call has waited for. -/
theorem Returns.handsOn (h : Returns reply o) (hc : c.Ledger)
    (hawaited : c.awaiting.lookup id = some (.task n)) (htask : c.tasks[n]? = some t) :
    HandsOn c n t.purpose o (c.step (.reply id reply)) := by
  obtain ⟨r, -, hawaits, hstep⟩ := hc.receive_eq hawaited htask reply
  -- that nobody waits for the reply any more is nothing to what is handed on
  have hnoted : ∀ c', HandsOn (c.noting (.reply id reply)) n t.purpose o c' →
      HandsOn c n t.purpose o c' := by
    intro c' h
    exact ⟨h.made, h.failureNotices, h.signInPrompts, h.flight, h.ready, h.sent⟩
  rw [hstep]
  apply hnoted
  rcases h.cases_result with ⟨response, rfl, hresult⟩ | ⟨error, rfl, hother, hresult⟩
  · rw [receive_of_ok hawaits hresult]
    exact complete_handsOn _ n t.purpose response
  · rw [receive_of_failure hresult hother]
    exact surface_handsOn _ n t.purpose error

end handsOn

/-! ### The main theorem -/

/-- **What is no refusal is handed on.**  Take any run of a client.

* A reply other than 401 ends the call that waits for it, unless the transport breaks
  down, and nothing else happens: the response of a success is returned as it came, a
  fault as a fault, and any other status as the failure that it is, with its text.
* The application was told of every failure that nobody expected, and of nothing else.
* No task has ended with the refusal of a request. -/
theorem passed_through (options : Options) (store : Store) (now : Time.Instant)
    (es : List Event) :
    let c := (Client.new options store now).after es
    (∀ id n t reply, c.awaiting.lookup id = some (.task n) → c.tasks[n]? = some t →
      reply ≠ .crash → (∀ r, reply = .response r → r.status ≠ 401) →
      ∃ o, Returns reply o ∧ HandsOn c n t.purpose o (c.step (.reply id reply))) ∧
    c.failureNotices = (c.settled.filter (·.2.isUnexpected)).length ∧
    ∀ n, (n, .failed .authorizationExpired) ∉ c.settled := by
  intro c
  have hc : c.Ledger := (Ledger.new options store now).after es
  refine ⟨?_, notices_after options store now es, unexpired_after options store now es⟩
  intro id n t reply hawaited htask hcrash hrefusal
  obtain ⟨o, hreturns⟩ := exists_returns hcrash hrefusal
  exact ⟨o, hreturns, hreturns.handsOn hc hawaited htask⟩

/-- Credentials are refused and replaced, and the request is sent again. -/
def resendingEvents : List Event :=
  [.signIn "a@b.c" "pw", .go 0, .reply 0 (granting "one"), .spawn (.ok page), .go 0,
    .reply 1 denying, .go 0, .reply 2 (granting "two"), .go 0]

/-- The answer of a service that is in trouble, and whose text is damaged. -/
def failing : Http.Response :=
  { status := 500, body := [0xFF] }

/-- What was sent again fails, and the application is told so once. -/
theorem passed_through_resent :
    let c := (Client.new {} .inMemory epoch).after resendingEvents
    let c' := c.step (.reply 3 (.response failing))
    c.awaiting.lookup 3 = some (.task 1) ∧ (c.sentBy (.task 1)).length = 2 ∧
    c'.settled = c.settled ++ [(1, .failed (.unexpected 500 "\uFFFD"))] ∧
    c'.session = c.session ∧ c'.sent = c.sent ∧ c'.ready = c.ready ∧
    c.failureNotices = 0 ∧ c'.failureNotices = 1 := by
  intro c c'
  have hawaited : c.awaiting.lookup 3 = some (.task 1) := by decide +kernel
  have hpurpose : c.tasks[1]?.map (·.purpose) = some .exchange := by decide +kernel
  obtain ⟨t, htask, hexchange⟩ := Option.map_eq_some_iff.mp hpurpose
  have hrefusal : ∀ r, Reply.response failing = .response r → r.status ≠ 401 := by
    rintro r heq
    cases heq
    decide
  obtain ⟨o, hreturns, handsOn⟩ := (passed_through {} .inMemory epoch resendingEvents).1 3 1 t
    (.response failing) hawaited htask nofun hrefusal
  have ho : o = .failed (.unexpected 500 "\uFFFD") := by
    have htext : Text.lossy failing.body = "\uFFFD" := by decide +kernel
    cases hreturns with
    | response success => exact absurd success (by decide)
    | validation status other => exact absurd status (by decide)
    | unexpected failure other => rw [htext]; rfl
  have hbefore : c.failureNotices = 0 := by decide +kernel
  have hnotices := handsOn.failureNotices
  obtain ⟨o', hmakes, hsettled⟩ := handsOn.made
  rw [hexchange] at hmakes
  obtain ⟨hreturned, hsession⟩ := hmakes.of_exchange
  rw [hreturned, ho] at hsettled
  rw [hbefore, ho] at hnotices
  exact ⟨hawaited, by decide +kernel, hsettled, hsession, handsOn.sent, handsOn.ready, hbefore,
    hnotices⟩

end Client

end SessionKeeper
