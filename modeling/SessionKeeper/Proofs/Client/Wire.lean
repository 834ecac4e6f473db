import SessionKeeper.Proofs.Client.Attempts
import SessionKeeper.Proofs.Client.Expiry

/-! # What goes out

An application hands over a request with a method, a path, a body and headers of its own.
What the service receives is this request, and may differ in one header: where credentials
are shown, they take the place of whatever authorization the request had.

* Two requests that differ in their authorization at most are alike (`Http.Request.Alike`).
  Whatever a task sends is alike to what it was given, so its two sendings are alike, too.
* Credentials are shown by regular requests only (`Picks`): those of the session, if there
  are any, when the request is sent for the first time, and those of which the task has
  heard when it is sent again.
* Credentials that cannot stand in a request end the task and change nothing else.

A request that is sent again shows the credentials of which its task has heard, even if the
session has ended meanwhile (`resent_signedOut`).

Mathlib gives the equations by which that run is computed. -/

namespace SessionKeeper

/-! ### Headers -/

namespace Http

namespace Headers

variable (hs : Headers) (name value : String)

@[simp] theorem all_set : (hs.set name value).all name = [value] := by
  have hnone : (hs.fields.filter (·.1 != name)).filter (·.1 == name) = [] := by
    rw [List.filter_filter, List.filter_eq_nil_iff]
    intro p _
    by_cases hp : p.1 = name
    · simp [hp]
    · simp [hp]
  simp [all, set, hnone]

/-- To set one header is nothing to the others. -/
theorem all_set_of_ne {other : String} (h : other ≠ name) :
    (hs.set name value).all other = hs.all other := by
  have hsame : (hs.fields.filter (·.1 != name)).filter (·.1 == other) =
      hs.fields.filter (·.1 == other) := by
    rw [List.filter_filter]
    refine List.filter_congr fun p _ => ?_
    by_cases hp : p.1 = other
    · simp [hp, h]
    · simp [hp]
  simp [all, set, hsame, Ne.symm h]

end Headers

/-- Two requests that differ in their authorization at most. -/
structure Request.Alike (r s : Request) : Prop where
  method : s.method = r.method
  path : s.path = r.path
  kind : s.kind = r.kind
  body : s.body = r.body
  headers : ∀ name, name ≠ authorization → s.headers.all name = r.headers.all name

namespace Request.Alike

variable {r s s' : Request}

theorem refl (r : Request) : r.Alike r :=
  ⟨rfl, rfl, rfl, rfl, fun _ _ => rfl⟩

theorem symm (h : r.Alike s) : s.Alike r :=
  ⟨h.method.symm, h.path.symm, h.kind.symm, h.body.symm,
    fun name hname => (h.headers name hname).symm⟩

theorem trans (h : r.Alike s) (h' : s.Alike s') : r.Alike s' where
  method := h'.method.trans h.method
  path := h'.path.trans h.path
  kind := h'.kind.trans h.kind
  body := h'.body.trans h.body
  headers name hname := (h'.headers name hname).trans (h.headers name hname)

end Request.Alike

end Http

namespace Client

variable {c : Client} {e : Event} {n : Nat} {t : Task} {r signed : Http.Request}
  {used : Option Credentials} {stage : Stage}

/-! ### What a request carries -/

/-- What `r` is when it goes out with these credentials, or without any. -/
structure Carries (r : Http.Request) (used : Option Credentials) (signed : Http.Request) :
    Prop where
  alike : r.Alike signed
  /-- Credentials take the place of all that the request had. -/
  authorization : signed.headers.all Http.authorization =
    match used with
    | none => r.headers.all Http.authorization
    | some x => [x.authorization]

theorem carries_of_authorized (h : authorize r used = .ok signed) : Carries r used signed := by
  unfold authorize at h
  split at h
  · cases h
    exact ⟨.refl r, rfl⟩
  · split at h
    · cases h
      refine ⟨⟨rfl, rfl, rfl, rfl, fun name hname => ?_⟩, r.headers.all_set _ _⟩
      exact r.headers.all_set_of_ne _ _ hname
    · cases h

/-- Whose credentials task `n` shows when it is to send its request `r`. -/
structure Picks (n : Nat) (r : Http.Request) (c : Client) (e : Event)
    (used : Option Credentials) : Prop where
  /-- Sign-ins and refreshes show none. -/
  other : r.kind ≠ .regular → used = none
  /-- For the first time it shows those of the session. -/
  first : r.kind = .regular → c.sentBy (.task n) = [] → used = c.session.credentials?
  /-- When it sends its request again, it shows those of which it has heard after a refusal. -/
  again : c.sentBy (.task n) ≠ [] → r.kind = .regular ∧
    ∃ g fresh, Hears c n e .refused g (.ok fresh) ∧ used = some fresh

theorem Attempts.picks (hc : c.Ledger) (h : Attempts n r c e used stage) : Picks n r c e used := by
  cases h with
  | bare starts kind =>
    have hnil := starts.unsent hc
    exact ⟨fun _ => rfl, fun hregular => absurd hregular kind, fun hsome => absurd hnil hsome⟩
  | begins starts kind lasting =>
    have hnil := starts.unsent hc
    exact ⟨fun hother => absurd kind hother, fun _ _ => rfl, fun hsome => absurd hnil hsome⟩
  | @ahead t g x task request hears =>
    have hshowed := hears.showed task request ((hc.kept n t task).showed r request)
    have hkind := hshowed.kind_of_waiting
    have hnil := (hears.sentBy_eq_nil_iff hc).mpr rfl
    exact ⟨fun hother => absurd hkind hother, fun _ _ => rfl, fun hsome => absurd hnil hsome⟩
  | @again t g fresh task request hears =>
    have hshowed := hears.showed task request ((hc.kept n t task).showed r request)
    have hkind := hshowed.kind_of_waiting
    refine ⟨fun hother => absurd hkind hother, fun _ hnil => ?_,
      fun _ => ⟨hkind, g, fresh, hears, rfl⟩⟩
    -- whoever was refused has sent his request
    cases (hears.sentBy_eq_nil_iff hc).mp hnil

/-- A session has no credentials exactly if nobody is signed in. -/
theorem credentials?_eq_none_iff {s : Session} (hs : s.Coherent) :
    s.credentials? = none ↔ s.state = .loggedOut := by
  rw [Session.credentials?, Option.map_eq_none_iff, ← SingleFlight.isLoggedIn_eq_false,
    hs.isLoggedIn_eq, Option.isSome_eq_false_iff, Option.isNone_iff_eq_none]

/-- What a task has sent is alike to what it was given. -/
theorem Showed.alike {sent : List Http.Request} (h : Showed r stage sent) :
    ∀ s ∈ sent, r.Alike s := by
  induction h with
  | starting => exact fun s hs => by cases hs
  | ahead kind => exact fun s hs => by cases hs
  | sent kind authorized =>
    intro s hs
    cases List.mem_singleton.mp hs
    exact (carries_of_authorized authorized).alike
  | refused kind authorized =>
    intro s hs
    cases List.mem_singleton.mp hs
    exact (carries_of_authorized authorized).alike
  | resent kind authorized again =>
    intro s hs
    rcases List.mem_pair.mp hs with rfl | rfl
    · exact (carries_of_authorized authorized).alike
    · exact (carries_of_authorized again).alike
  | done was ih => exact ih

/-! ### The main theorem -/

/-- **What goes out.**  Take any run of a client, any event after it, and any task.

* If the task sends something in the event, then it was to send its request: this is an
  attempt, and it sends one request, which carries the credentials of the attempt.
* In an attempt sign-ins and refreshes show no credentials.  A regular request that was not
  sent before shows those of the session, and none exactly if nobody is signed in; one that
  was sent before shows those of which its task has heard, also if the session has ended
  since.  Neither the session nor the flight under way is changed.
* If there are no credentials to be shown, or they can stand in a request, then it is sent.
  Otherwise nothing is sent, and the task fails with an error of the program itself.
* All that a task has sent so far is alike, and alike to the request that it was given. -/
theorem sent_as_given (options : Options) (store : Store) (now : Time.Instant) (es : List Event)
    (e : Event) (n : Nat) :
    let c := (Client.new options store now).after es
    ((c.step e).sentBy (.task n) ≠ c.sentBy (.task n) →
      ∃ r used stage signed, Attempts n r c e used stage ∧ Carries r used signed ∧
        (c.step e).sentBy (.task n) = c.sentBy (.task n) ++ [signed]) ∧
    (∀ r used stage, Attempts n r c e used stage →
      (∃ t, c.tasks[n]? = some t ∧ t.request = .ok r) ∧ Picks n r c e used ∧
      (c.session.credentials? = none ↔ c.session.state = .loggedOut) ∧
      (c.step e).desk = c.desk ∧
      ((∀ x, used = some x → Http.isFieldValue x.authorization = true) →
        ∃ signed, Carries r used signed ∧
          (c.step e).sentBy (.task n) = c.sentBy (.task n) ++ [signed]) ∧
      ∀ x, used = some x → Http.isFieldValue x.authorization = false →
        (c.step e).sent = c.sent ∧
          (c.step e).settled = c.settled ++ [(n, .failed (.internal .authorization))]) ∧
    ∀ t r, c.tasks[n]? = some t → t.request = .ok r →
      ∀ s ∈ c.sentBy (.task n), r.Alike s ∧ ∀ s' ∈ c.sentBy (.task n), s.Alike s' := by
  intro c
  have hc : c.Ledger := (Ledger.new options store now).after es
  refine ⟨fun hsends => ?_, fun r used stage hattempts => ?_, fun t r ht hr s hs => ?_⟩
  · obtain ⟨r, used, stage, signed, hattempts, hauthorized, hsent⟩ := attempted_of_sends hc hsends
    exact ⟨r, used, stage, signed, hattempts, carries_of_authorized hauthorized, hsent⟩
  · refine ⟨hattempts.task, hattempts.picks hc, credentials?_eq_none_iff hc.desk.coherent,
      hattempts.desk_eq hc, fun hlegal => ?_, fun x hx hillegal => ?_⟩
    · have hauthorized : ∃ signed, authorize r used = .ok signed := by
        cases used with
        | none => exact ⟨r, rfl⟩
        | some x => exact ⟨_, authorize_of_isFieldValue r (hlegal x rfl)⟩
      obtain ⟨signed, hsigned⟩ := hauthorized
      obtain ⟨hsent, -⟩ := hattempts.sends hc hsigned
      exact ⟨signed, carries_of_authorized hsigned, hsent⟩
    · subst hx
      obtain ⟨hsent, hsettled, -⟩ := hattempts.fails hc (authorize_of_not_isFieldValue r hillegal)
      exact ⟨hsent, hsettled⟩
  · have hshowed := (hc.kept n t ht).showed r hr
    have halike : ∀ s ∈ c.sentBy (.task n), r.Alike s := hshowed.alike
    exact ⟨halike s hs, fun s' hs' => (halike s hs).symm.trans (halike s' hs')⟩

/-- Two requests were refused together.  The first of them was sent again with what has
replaced the credentials, and was refused again, so the session has ended; the other one is
about to be woken. -/
def wakingClient : Client :=
  (Client.new {} .inMemory epoch).after
    [.signIn "a@b.c" "pw", .go 0, .reply 0 (granting "one"), .spawn (.ok page), .spawn (.ok page),
      .go 0, .go 0, .reply 1 denying, .reply 2 denying, .go 0, .reply 3 (granting "two"), .go 0,
      .reply 4 denying]

/-- Nobody is signed in any more, and the request had no authorization of its own.  It is sent
again with the credentials of the session that has ended. -/
theorem resent_signedOut :
    wakingClient.tasks[2]? = some ⟨.exchange, .ok page, .waiting .refused .first false⟩ ∧
    page.kind = .regular ∧ page.headers.all Http.authorization = [] ∧
    wakingClient.session.state = .loggedOut ∧
    (wakingClient.sentBy (.task 2)).map (·.headers.all Http.authorization) = [["Bearer one"]] ∧
    ((wakingClient.step (.go 0)).sentBy (.task 2)).map (·.headers.all Http.authorization) =
      [["Bearer one"], ["Bearer two"]] := by
  have htask : wakingClient.tasks[2]? =
      some ⟨.exchange, .ok page, .waiting .refused .first false⟩ := by cbv
  exact ⟨htask, rfl, rfl, by decide +kernel, by decide +kernel, by decide +kernel⟩

end Client

end SessionKeeper
