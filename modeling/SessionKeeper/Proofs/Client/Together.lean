import Mathlib
import SessionKeeper.Proofs.Client.Deliveries
import SessionKeeper.Proofs.Client.Expiry
import SessionKeeper.Proofs.Refresh.Issuance

/-! # One refresh for all who are refused together

Any number of regular requests were sent with the credentials of a session, and the
service refuses them all.  Whatever the order of the replies:

* if the refresh succeeds, it was the only one, every request was sent once more with
  the new credentials, and every task has the response to that;
* if the refresh fails, no request was sent again, every task is told that the session
  is over, and the application was asked for the sign-in once.

Both are read off the end of a course (`Course.ended`).  A task may have launched the
flight, have joined it, or have come too late for it; in the end nobody can tell.

Mathlib gives the equations by which two runs are computed. -/

namespace SessionKeeper

/-! ### What the flight comes to -/

/-- A response issues no credentials if its body is no record, or one with an empty access
token. -/
theorem Credentials.issuedBy_eq_error_iff {response : Http.Response} {name : String} :
    (∃ e, Credentials.issuedBy response name = .error e) ↔
      Credentials.readRecord? (Text.glyphs response.body) = none ∨
        ∃ record, Credentials.readRecord? (Text.glyphs response.body) = some record ∧
          record.accessToken.isEmpty = true := by
  unfold Credentials.issuedBy
  cases Credentials.readRecord? (Text.glyphs response.body) with
  | none => exact ⟨fun _ => Or.inl rfl, fun _ => ⟨_, rfl⟩⟩
  | some record =>
    by_cases hempty : record.accessToken.isEmpty = true
    · exact ⟨fun _ => Or.inr ⟨record, rfl, hempty⟩, fun _ => ⟨_, if_pos hempty⟩⟩
    · constructor
      · rintro ⟨e, he⟩
        simp only [if_neg hempty] at he
        cases he
      · rintro (hnone | ⟨record', hsome, hempty'⟩)
        · cases hnone
        · cases hsome
          exact absurd hempty' hempty

namespace Client

namespace Batch

variable {b : Batch} {c : Client}

/-- The ways in which the flight of a batch fails. -/
inductive Fails (b : Batch) (c : Client) : Prop where
  /-- The refresh token cannot stand in a cookie. -/
  | unbuildable {e : CallError}
      (request : c.options.endpoint.request b.used.credentials = .error e)
  | crashed (renewal : b.renewal = .crash)
  | faulted {fault : Http.TransportFault} (renewal : b.renewal = .fault fault)
  | denied {response : Http.Response} (renewal : b.renewal = .response response)
      (status : response.isSuccess = false)
  /-- The body is no record. -/
  | unreadable {response : Http.Response} (renewal : b.renewal = .response response)
      (body : Credentials.readRecord? (Text.glyphs response.body) = none)
  /-- The body is a record with an empty access token. -/
  | tokenless {response : Http.Response} {record : Credentials}
      (renewal : b.renewal = .response response)
      (body : Credentials.readRecord? (Text.glyphs response.body) = some record)
      (empty : record.accessToken.isEmpty = true)

theorem result_of_request {r : Http.Request}
    (h : c.options.endpoint.request b.used.credentials = .ok r) :
    b.result c = c.flightResult b.renewal := by
  simp only [result, h]

/-- **There is no other way to fail.** -/
theorem result_eq_error_iff : (∃ e, b.result c = .error e) ↔ b.Fails c := by
  constructor
  · rintro ⟨e, he⟩
    cases hrequest : c.options.endpoint.request b.used.credentials with
    | error e => exact .unbuildable hrequest
    | ok r =>
      rw [result_of_request hrequest] at he
      cases hrenewal : b.renewal with
      | crash => exact .crashed hrenewal
      | fault fault => exact .faulted hrenewal
      | response response =>
        rw [hrenewal] at he
        cases hsuccess : response.isSuccess with
        | false => exact .denied hrenewal hsuccess
        | true =>
          simp only [flightResult_response, RefreshEndpoint.outcome, hsuccess, if_true] at he
          rcases Credentials.issuedBy_eq_error_iff.mp ⟨e, he⟩ with hnone | ⟨record, hsome, hempty⟩
          · exact .unreadable hrenewal hnone
          · exact .tokenless hrenewal hsome hempty
  · intro h
    cases hrequest : c.options.endpoint.request b.used.credentials with
    | error e => exact ⟨e, by simp only [result, hrequest]⟩
    | ok r =>
      rw [result_of_request hrequest]
      -- a body that issues nothing is a failure whatever the status
      have hissues : ∀ response, b.renewal = .response response →
          (∃ e, Credentials.issuedBy response c.options.endpoint.cookieName = .error e) →
          ∃ e, c.flightResult b.renewal = .error e := by
        rintro response hrenewal ⟨e, he⟩
        simp only [hrenewal, flightResult_response, RefreshEndpoint.outcome]
        split
        · exact ⟨e, he⟩
        · exact ⟨_, rfl⟩
      cases h with
      | unbuildable request => cases hrequest.symm.trans request
      | crashed renewal => exact ⟨_, by rw [renewal]; rfl⟩
      | faulted renewal => exact ⟨_, by rw [renewal]; rfl⟩
      | denied renewal status =>
        rw [renewal]
        simp only [flightResult_response, RefreshEndpoint.outcome, status, Bool.false_eq_true,
          if_false]
        exact ⟨_, rfl⟩
      | unreadable renewal body =>
        exact hissues _ renewal (Credentials.issuedBy_eq_error_iff.mpr (Or.inl body))
      | tokenless renewal body empty =>
        exact hissues _ renewal (Credentials.issuedBy_eq_error_iff.mpr (Or.inr ⟨_, body, empty⟩))

end Batch

/-- A refresh token that can stand in a cookie can be sent. -/
theorem request_of_cookie (endpoint : RefreshEndpoint) {current : Credentials}
    (h : ∀ token, current.refreshToken = some token →
      Http.isFieldValue (endpoint.cookieName ++ "=" ++ token) = true) :
    ∃ r, endpoint.request current = .ok r :=
  ⟨_, endpoint.request_of_isFieldValue h⟩

/-! ### The end of a batch -/

/-- Where a run has come to a session, and no credentials are replaced ahead of time,
requests with its credentials make a batch. -/
theorem Dispatched.fit {options : Options} {store : Store} {now : Time.Instant}
    {history : List Event} {b : Batch} {c₀ : Client}
    (hc₀ : c₀ = (Client.new options store now).after history)
    (hthreshold : options.refreshThreshold = 0) (hdispatched : Dispatched b c₀)
    (hauthorization : Http.isFieldValue b.used.credentials.authorization = true)
    (hfresh : ∀ new, b.result c₀ = .ok new → Http.isFieldValue new.authorization = true) :
    b.Fit c₀ where
  window := by
    rw [hc₀, options_after (.new options store now)]
    simp only [Client.new, Options.window?, hthreshold, if_true]
  authorization := hauthorization
  fresh := hfresh
  unclaimed := by
    have hunclaimed : c₀.session.Unclaimed := by
      rw [hc₀]
      exact unclaimed_after (sound_new options store now) (.restore store) history
    refine hunclaimed ?_
    rw [Session.isLoggedIn, hdispatched.state]
    rfl

/-- At the end of a course every task has its outcome, and the phase is one of the
last two. -/
theorem Dispatched.finished {options : Options} {store : Store} {now : Time.Instant}
    {history es : List Event} {b : Batch} {c₀ : Client}
    (hc₀ : c₀ = (Client.new options store now).after history)
    (hdispatched : Dispatched b c₀) (hsome : b.members ≠ []) (hfit : b.Fit c₀)
    (halong : Along b c₀ es) (hfinished : Finished b (c₀.after es)) :
    Course b c₀ (c₀.after es) true ∧
      ∀ n ∈ b.members, ∀ t r, c₀.tasks[n]? = some t → t.request = .ok r →
        Leg b (b.result c₀) n r true .done ((c₀.after es).sentBy (.task n))
          ((c₀.after es).outcomesOf n) := by
  have hledger : c₀.Ledger := hc₀ ▸ (Ledger.new options store now).after history
  have hqueued : c₀.Queued :=
    hc₀ ▸ (Queued.new options store now).after (.new options store now) history
  obtain ⟨landed, hcourse⟩ :=
    (Course.start hdispatched hledger).after hfit hledger hqueued halong
  have hended : ∀ n ∈ b.members, ∃ r, (c₀.after es).tasks[n]? = some ⟨.exchange, .ok r, .done⟩ ∧
      Leg b (b.result c₀) n r landed .done ((c₀.after es).sentBy (.task n))
        ((c₀.after es).outcomesOf n) := fun n hn =>
    hcourse.ended (hledger.after es) (hqueued.after hledger es) hfinished hn
  -- a task that has ended shows that the flight has landed
  have hlanded : landed = true := by
    obtain ⟨n, hn⟩ := List.exists_mem_of_ne_nil _ hsome
    obtain ⟨r, -, leg⟩ := hended n hn
    generalize (c₀.after es).sentBy (.task n) = sent at leg
    generalize (c₀.after es).outcomesOf n = outcomes at leg
    cases leg <;> rfl
  subst hlanded
  refine ⟨hcourse, fun n hn t r ht hr => ?_⟩
  obtain ⟨r', ht', leg⟩ := hended n hn
  obtain ⟨purpose, request, stage₀⟩ := t
  obtain ⟨stage, hstays⟩ := task_after hledger es ht
  cases ht'.symm.trans hstays
  cases hr
  exact leg

/-! ### The refresh succeeds -/

/-- **One refresh serves them all.**  Take any run of a client that replaces nothing
ahead of time, at whose end somebody is signed in and any number of regular requests
were sent, or are about to be sent, with the credentials of the session.  Let the
service refuse them all, replace the credentials when it is asked to, and accept what
is sent with the new ones; and let nobody sign in or out.

Then in whatever order all this comes: once everything was delivered, one request for
a refresh was sent; every request was sent twice, the second time with the new
credentials, and its task has the response to that; the session goes on with the new
credentials, which keep the old refresh token if they bring none; and the application
was not asked for anything. -/
theorem refused_together_renewed (options : Options) (store : Store) (now : Time.Instant)
    (history es : List Event) (b : Batch) (c₀ : Client) (grant : Http.Response) (new : Credentials)
    (hc₀ : c₀ = (Client.new options store now).after history)
    (hthreshold : options.refreshThreshold = 0) (hdispatched : Dispatched b c₀)
    (hsome : b.members ≠ [])
    (hauthorization : Http.isFieldValue b.used.credentials.authorization = true)
    (hcookie : ∀ token, b.used.credentials.refreshToken = some token →
      Http.isFieldValue (options.refreshCookieName ++ "=" ++ token) = true)
    (hrenewal : b.renewal = .response grant)
    (hgrant : options.endpoint.outcome (.ok grant) = .ok new)
    (hfresh : Http.isFieldValue new.authorization = true)
    (halong : Along b c₀ es) (hfinished : Finished b (c₀.after es)) :
    let c := c₀.after es
    c.departures = c₀.departures ++ [b.used.generation] ∧
    (∀ n ∈ b.members, ∀ t r, c₀.tasks[n]? = some t → t.request = .ok r →
      ∃ first second, authorize r (some b.used.credentials) = .ok first ∧
        authorize r (some new) = .ok second ∧ c.sentBy (.task n) = [first, second] ∧
        c.outcomesOf n = [.response (b.page n)]) ∧
    c.session.state = .loggedIn b.used.generation.next ∧
    c.session.current =
      some ⟨b.used.generation.next, new.keepRefreshToken (some b.used.credentials)⟩ ∧
    c.signInPrompts = c₀.signInPrompts ∧ c.failureNotices = c₀.failureNotices := by
  intro c
  have hoptions : c₀.options = options := by rw [hc₀, options_after (.new options store now)]; rfl
  have hresult : b.result c₀ = .ok new := by
    obtain ⟨r, hrequest⟩ := request_of_cookie options.endpoint hcookie
    rw [Batch.result_of_request (by rw [hoptions]; exact hrequest), hrenewal]
    simp only [flightResult_response, hoptions, hgrant]
  have hfit : b.Fit c₀ := hdispatched.fit hc₀ hthreshold hauthorization fun new' hnew => by
    cases hresult.symm.trans hnew
    exact hfresh
  obtain ⟨hcourse, hlegs⟩ := hdispatched.finished hc₀ hsome hfit halong hfinished
  cases hcourse.phase with
  | lost returned => cases hresult.symm.trans returned
  | renewed returned state current flight departures prompts =>
    cases hresult.symm.trans returned
    refine ⟨departures, fun n hn t r ht hr => ?_, state, current, prompts, hcourse.notices⟩
    have leg := hlegs n hn t r ht hr
    rw [hresult] at leg
    generalize c.sentBy (.task n) = sent at leg ⊢
    generalize c.outcomesOf n = outcomes at leg ⊢
    cases leg with
    | answered returned authorized again =>
      cases returned
      exact ⟨_, _, authorized, again, rfl, rfl⟩
    | failed returned => cases returned

/-- The answer to a sign-in that brings a refresh token, too. -/
def keyed : Reply :=
  .response
    { status := 200
      body := Text.bytesOf
        "\x7b\"accessToken\":\"one\",\"type\":\"Bearer\",\"refreshToken\":\"key\"\x7d" }

/-- Somebody has signed in.  Two requests were sent with the credentials of the session,
and a third one is about to be. -/
def sharedClient : Client :=
  (Client.new {} .inMemory epoch).after
    [.signIn "a@b.c" "pw", .go 0, .reply 0 keyed, .spawn (.ok page), .spawn (.ok page),
      .spawn (.ok page), .go 0, .go 0]

/-- These three requests, with different responses to what is sent again. -/
def sharedBatch (renewal : Reply) : Batch :=
  ⟨⟨.first, ⟨"one", "Bearer", some "key", none⟩⟩, [1, 2, 3], renewal,
    fun n => { status := 200, body := [n.toUInt8] }⟩

theorem sharedBatch_dispatched (renewal : Reply) :
    Dispatched (sharedBatch renewal) sharedClient where
  state := by
    show sharedClient.session.state = .loggedIn .first
    decide +kernel
  current := by
    show sharedClient.session.current = some ⟨.first, ⟨"one", "Bearer", some "key", none⟩⟩
    decide +kernel
  boarding := by decide +kernel
  task n hn := by
    have htasks : sharedClient.tasks.drop 1 =
        [⟨.exchange, .ok page, .sent (some (sharedBatch renewal).used)⟩,
          ⟨.exchange, .ok page, .sent (some (sharedBatch renewal).used)⟩,
          ⟨.exchange, .ok page, .starting⟩] := by cbv
    have htask : ∀ m, sharedClient.tasks[1 + m]? = _ := fun m => by
      rw [← List.getElem?_drop, htasks]
    rcases show n = 1 ∨ n = 2 ∨ n = 3 by simpa [sharedBatch] using hn with rfl | rfl | rfl
    · exact ⟨page, _, htask 0, rfl, Or.inr rfl⟩
    · exact ⟨page, _, htask 1, rfl, Or.inr rfl⟩
    · exact ⟨page, _, htask 2, rfl, Or.inl rfl⟩

/-- Where nobody waits for anything, nothing is left to be delivered. -/
theorem Finished.of_nil {b : Batch} {c : Client} (hready : c.ready = [])
    (hawaiting : c.awaiting = []) : Finished b c where
  starts n _ := by simp [hready]
  wakes n _ := by simp [woken, hready]
  replies n _ := by simp [awaitedBy, hawaiting]
  calls := by simp [Client.calls, boarding, hready, hawaiting]

/-- The first request is refused, and its task launches the flight; the third request is
sent after that.  The second one is refused while the flight is under way, and the third
one when it has landed.  The first task is the last to be answered. -/
def renewingEvents : List Event :=
  [.reply 1 denying, .go 0, .reply 2 denying, .go 0, .reply 4 (granting "two"), .go 1,
    .reply 3 denying, .reply 5 (.response ((sharedBatch .crash).page 2)), .go 0,
    .reply 6 (.response ((sharedBatch .crash).page 3)),
    .reply 7 (.response ((sharedBatch .crash).page 1))]

/-- All three have the responses to what they have sent again, and the old refresh token
is kept. -/
theorem refused_together_renewed_thrice :
    let c := sharedClient.after renewingEvents
    Dispatched (sharedBatch (granting "two")) sharedClient ∧
    Along (sharedBatch (granting "two")) sharedClient renewingEvents ∧
    Finished (sharedBatch (granting "two")) c ∧
    c.departures = [.first] ∧
    (∀ n ∈ [1, 2, 3], ∃ first second, c.sentBy (.task n) = [first, second] ∧
      c.outcomesOf n = [.response { status := 200, body := [n.toUInt8] }]) ∧
    c.sent.map (fun s => (s.owner, s.request.authorization?)) =
      [(.task 0, none), (.task 1, some "Bearer one"), (.task 2, some "Bearer one"),
        (.task 3, some "Bearer one"), (.flight .first, none), (.task 2, some "Bearer two"),
        (.task 3, some "Bearer two"), (.task 1, some "Bearer two")] ∧
    c.session.state = .loggedIn ⟨2⟩ ∧
    c.session.current = some ⟨⟨2⟩, ⟨"two", "Bearer", some "key", none⟩⟩ ∧
    c.signInPrompts = 0 ∧ c.failureNotices = 0 := by
  intro c
  have hdispatched := sharedBatch_dispatched (granting "two")
  have halong : Along (sharedBatch (granting "two")) sharedClient renewingEvents := by
    decide +kernel
  have hready : c.ready = [] := List.eq_nil_of_length_eq_zero (by decide +kernel)
  have hfinished : Finished (sharedBatch (granting "two")) c := .of_nil hready (by decide +kernel)
  obtain ⟨hdepartures, htasks, hstate, hcurrent, hprompts, hnotices⟩ :=
    refused_together_renewed {} .inMemory epoch _ renewingEvents (sharedBatch (granting "two"))
      sharedClient _ ⟨"two", "Bearer", none, none⟩ rfl rfl hdispatched (by decide)
      (by decide +kernel)
      (fun token htoken => by cases htoken; decide +kernel) rfl (by decide +kernel)
      (by decide +kernel) halong hfinished
  refine ⟨hdispatched, halong, hfinished, ?_, fun n hn => ?_, by decide +kernel, hstate, hcurrent,
    ?_, ?_⟩
  · rw [hdepartures]
    decide +kernel
  · obtain ⟨r, stage, ht, -⟩ := hdispatched.task n hn
    obtain ⟨first, second, -, -, hsent, houtcomes⟩ := htasks n hn _ r ht rfl
    exact ⟨first, second, hsent, houtcomes⟩
  · rw [hprompts]
    decide +kernel
  · rw [hnotices]
    decide +kernel

/-! ### The refresh fails -/

/-- **One failure is told to them all.**  Take a run as before, with a store that can be
written, and let the refresh fail in any way.

Then in whatever order all this comes: once everything was delivered, one request for a
refresh was sent at most; every request was sent once, and its task is told that the
session is over; nobody is signed in, and the store holds no record; and the
application was asked for the sign-in once, and not told of any failure. -/
theorem refused_together_lost (options : Options) (store : Store) (now : Time.Instant)
    (history es : List Event) (b : Batch) (c₀ : Client)
    (hc₀ : c₀ = (Client.new options store now).after history)
    (hthreshold : options.refreshThreshold = 0) (hdispatched : Dispatched b c₀)
    (hsome : b.members ≠ [])
    (hauthorization : Http.isFieldValue b.used.credentials.authorization = true)
    (hfails : b.Fails c₀) (hwritable : ∃ cleared, c₀.session.store.clear = .ok cleared)
    (halong : Along b c₀ es) (hfinished : Finished b (c₀.after es)) :
    let c := c₀.after es
    (c.departures = c₀.departures ∨ c.departures = c₀.departures ++ [b.used.generation]) ∧
    (∀ n ∈ b.members, ∀ t r, c₀.tasks[n]? = some t → t.request = .ok r →
      ∃ first e, authorize r (some b.used.credentials) = .ok first ∧
        c.sentBy (.task n) = [first] ∧ e.isSessionExpired = true ∧
        c.outcomesOf n = [.failed e]) ∧
    c.session.state = .loggedOut ∧ c.session.current = none ∧ c.session.store.text? = none ∧
    c.signInPrompts = c₀.signInPrompts + 1 ∧ c.failureNotices = c₀.failureNotices := by
  intro c
  obtain ⟨error, hresult⟩ := Batch.result_eq_error_iff.mpr hfails
  obtain ⟨cleared, hcleared⟩ := hwritable
  have hfit : b.Fit c₀ := hdispatched.fit hc₀ hthreshold hauthorization fun new hnew => by
    cases hresult.symm.trans hnew
  obtain ⟨hcourse, hlegs⟩ := hdispatched.finished hc₀ hsome hfit halong hfinished
  have hmembers : ∀ n ∈ b.members, ∀ t r, c₀.tasks[n]? = some t → t.request = .ok r →
      ∃ first e, authorize r (some b.used.credentials) = .ok first ∧
        c.sentBy (.task n) = [first] ∧ e.isSessionExpired = true ∧
        c.outcomesOf n = [.failed e] := by
    intro n hn t r ht hr
    have leg := hlegs n hn t r ht hr
    rw [hresult] at leg
    generalize c.sentBy (.task n) = sent at leg ⊢
    generalize c.outcomesOf n = outcomes at leg ⊢
    cases leg with
    | answered returned => cases returned
    | failed returned authorized expired => exact ⟨_, _, authorized, rfl, expired, rfl⟩
  -- there is a task, and when it was told the prompt was claimed
  have hprompted : c.session.prompted = true := by
    obtain ⟨n, hn⟩ := List.exists_mem_of_ne_nil _ hsome
    obtain ⟨r, stage, ht, -⟩ := hdispatched.task n hn
    obtain ⟨first, e, -, -, -, houtcomes⟩ := hmembers n hn _ r ht rfl
    exact hcourse.told error hresult n hn (by rw [houtcomes]; simp)
  have hsound : c.desk.Sound := by
    show (c₀.after es).desk.Sound
    rw [hc₀]
    exact sound_after (sound_after (sound_new options store now) history) es
  cases hcourse.phase with
  | renewed returned => cases hresult.symm.trans returned
  | lost returned state flight departures emptied prompts =>
    refine ⟨departures, hmembers, state, hsound.coherent.current_of_loggedOut state,
      emptied cleared hcleared, ?_, hcourse.notices⟩
    rcases prompts with ⟨hunclaimed, -⟩ | ⟨-, heq⟩
    · rw [show c.session.prompted = false from hunclaimed] at hprompted
      cases hprompted
    · exact heq

/-- The first request is refused, and its task launches the flight; the third request is
sent after that.  The second one is refused while the flight is under way.  Then the
refresh breaks down, and the third request is refused last. -/
def losingEvents : List Event :=
  [.reply 1 denying, .go 0, .reply 2 denying, .go 0, .reply 4 .crash, .go 1, .reply 3 denying,
    .go 0]

/-- All three are told that the session is over, and the application is asked for the
sign-in once. -/
theorem refused_together_lost_thrice :
    let c := sharedClient.after losingEvents
    Dispatched (sharedBatch .crash) sharedClient ∧
    Along (sharedBatch .crash) sharedClient losingEvents ∧ Finished (sharedBatch .crash) c ∧
    (c.departures = [] ∨ c.departures = [.first]) ∧
    (∀ n ∈ [1, 2, 3], ∃ first e, c.sentBy (.task n) = [first] ∧
      e.isSessionExpired = true ∧ c.outcomesOf n = [.failed e]) ∧
    c.session.state = .loggedOut ∧ c.session.current = none ∧ c.session.store.text? = none ∧
    c.signInPrompts = 1 ∧ c.failureNotices = 0 := by
  intro c
  have hdispatched := sharedBatch_dispatched .crash
  have halong : Along (sharedBatch .crash) sharedClient losingEvents := by decide +kernel
  have hready : c.ready = [] := List.eq_nil_of_length_eq_zero (by decide +kernel)
  have hfinished : Finished (sharedBatch .crash) c := .of_nil hready (by decide +kernel)
  obtain ⟨hdepartures, htasks, hstate, hcurrent, hstore, hprompts, hnotices⟩ :=
    refused_together_lost {} .inMemory epoch _ losingEvents (sharedBatch .crash) sharedClient
      rfl rfl hdispatched (by decide) (by decide +kernel) (.crashed rfl)
      ⟨.inMemory, by decide +kernel⟩ halong hfinished
  refine ⟨hdispatched, halong, hfinished, ?_, fun n hn => ?_, hstate, hcurrent, hstore, ?_, ?_⟩
  · rw [show sharedClient.departures = [] by decide +kernel] at hdepartures
    exact hdepartures
  · obtain ⟨r, stage, ht, -⟩ := hdispatched.task n hn
    obtain ⟨first, e, -, hsent, hexpired, houtcomes⟩ := htasks n hn _ r ht rfl
    exact ⟨first, e, hsent, hexpired, houtcomes⟩
  · rw [hprompts]
    decide +kernel
  · rw [hnotices]
    decide +kernel

end Client

end SessionKeeper
