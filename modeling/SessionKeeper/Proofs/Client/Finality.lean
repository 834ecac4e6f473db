import SessionKeeper.Proofs.Client.Keeping
import SessionKeeper.Proofs.Client.Retry

/-! # The end of a session is final

A session ends at the wish of the application, with a task, or with a flight (`Ends`).
Whatever was under way then may still come back: replies, the success of a flight among
them, and tasks that waited for it.  Nothing of this brings the session back.  Until
somebody signs in

* nobody is signed in, and there are no credentials, here or in the store (`Session.Over`);
* no flight is launched (`Lapse.launches_eq_nil`);
* what is sent for the first time is sent without credentials (`Bare`).

No more of Mathlib than the imports bring. -/

namespace SessionKeeper

open SingleFlight (Moved)

namespace Session

/-- The session is over, and nothing is left of it. -/
structure Over (s : Session) : Prop where
  state : s.state = .loggedOut
  current : s.current = none
  record : s.store.text? = none

variable {s s' : Session}

theorem Over.of_signOut (hs : s.store.Writable) : s.signOut.2.Over :=
  ⟨signOut_state s, signOut_current s, by rw [signOut_store, hs.text?_attempt_clear]⟩

theorem Over.of_ended (hs : s.store.Writable) : s.ended.Over :=
  ⟨ended_state s, ended_current s, by rw [ended_store, hs.text?_attempt_clear]⟩

/-- To end a session that is over leaves it so, whether or not its store can be written. -/
theorem Over.signOut (h : s.Over) : s.signOut.2.Over :=
  ⟨signOut_state s, signOut_current s, by rw [signOut_store, Store.text?_attempt_clear h.record]⟩

theorem Over.congr (h : s.Over) (hstate : s'.state = s.state) (hcurrent : s'.current = s.current)
    (hrecord : s'.store.text? = s.store.text?) : s'.Over :=
  ⟨hstate.trans h.state, hcurrent.trans h.current, hrecord.trans h.record⟩

theorem Over.credentials? (h : s.Over) : s.credentials? = none := by
  rw [Session.credentials?, h.current, Option.map_none]

theorem Over.load (h : s.Over) : s.store.load = none := by
  rw [Store.load, h.record, Option.bind_none]

end Session

namespace Client

/-! ### The end of a session -/

/-- The session ends: by a wish or with a task, even if it was over before, or because a
flight has failed. -/
def Ends (c : Client) (e : Event) : Prop :=
  SignsOut c e ∨ c.session.isLoggedIn = true ∧ (c.step e).session.isLoggedIn = false

section ends

variable {c : Client} {e : Event}

theorem SignsOut.over (hc : c.Ledger) (h : SignsOut c e) (hs : c.session.store.Writable) :
    (c.step e).session.Over := by
  have hover : c.session.signOut.2.Over := .of_signOut hs
  rw [h.session hc, signOut_session]
  exact hover.congr rfl rfl rfl

/-- **Nothing is left of a session that ends.** -/
theorem Ends.over (hc : c.Ledger) (h : Ends c e) (hs : c.session.store.Writable) :
    (c.step e).session.Over := by
  rcases h with hwish | ⟨hin, hout⟩
  · exact hwish.over hc hs
  · -- a session that stays as it was has not ended
    have hsame : (c.step e).session.state = c.session.state → (c.step e).session.Over := by
      intro heq
      rw [Session.isLoggedIn, heq] at hout
      rw [Session.isLoggedIn, hout] at hin
      cases hin
    cases (affects_spec hc e).leaves hout with
    | spares session prompts => exact hsame (by rw [session])
    | lands session prompts =>
      rw [session]
      exact .of_ended hs
    | signsOut cause => exact cause.over hc hs
    | rejects cause session => exact hsame (by rw [session, Session.claimPrompt_state])
    | stores session prompts => exact hsame (by rw [session])

end ends

/-! ### Until somebody signs in -/

/-- A session is over, and for a run from `c` nobody signs in, nor does anybody else
alter the record. -/
structure Lapse (c : Client) (es : List Event) : Prop where
  ledger : c.Ledger
  session : c.session.Over
  unsigned : ¬ During c es SignsIn
  unaltered : ¬ During c es Alters

section lapse

variable {c : Client} {e : Event} {es : List Event} {n : Nat}

/-- **Step.**  Nobody but a person who signs in brings a session back. -/
theorem Affects.over (h : Affects c e (c.step e)) (hs : c.session.Over)
    (hunsigned : ¬ SignsIn c e) (hunaltered : ¬ Alters c e) : (c.step e).session.Over := by
  have hout := hs.state
  cases h with
  | spares session prompts => rwa [session]
  | refreshes state session prompts =>
    rw [hout] at state
    cases state
  | signsIn token settled session prompts => exact absurd ⟨_, _, settled⟩ hunsigned
  | lands under token landed session flight prompts =>
    rw [session]
    -- the flight comes too late for the session, whatever it brings
    cases landed with
    | replaced state returned =>
      rw [hout] at state
      cases state
    | failed state returned =>
      rw [hout] at state
      cases state
    | overtaken state newer current =>
      rw [hout] at state
      cases state
    | ended state => exact hs
  | signsOut cause session prompts =>
    rw [session, signOut_session]
    exact hs.signOut.congr rfl rfl rfl
  | rejects cause session prompts =>
    rw [session]
    exact hs.congr (Session.claimPrompt_state _) (Session.claimPrompt_current _)
      (by rw [Session.claimPrompt_store])
  | @stores store event session prompts =>
    rw [session]
    refine hs.congr rfl rfl ?_
    by_contra hother
    exact hunaltered ⟨store, event, hother⟩

theorem Lapse.step (h : Lapse c (e :: es)) : Lapse (c.step e) es := by
  have hunsigned := h.unsigned
  have hunaltered := h.unaltered
  rw [During.cons_iff, not_or] at hunsigned hunaltered
  have hover := (affects_spec h.ledger e).over h.session hunsigned.1 hunaltered.1
  exact ⟨h.ledger.step e, hover, hunsigned.2, hunaltered.2⟩

/-- **Run.**  The session stays over. -/
theorem Lapse.over_after (h : Lapse c es) : (c.after es).session.Over := by
  induction es generalizing c with
  | nil => exact h.session
  | cons e es ih => exact ih h.step

/-- A flight is launched only while somebody is signed in. -/
theorem launched?_of_loggedOut (hs : c.desk.Sound) (hout : c.session.state = .loggedOut)
    (e : Event) : c.launched? e = none := by
  refine launched?_of_flight fun hsome => ?_
  have hmoved : Moved c.desk (c.step e).desk := (step_spec hs e).moved hs
  generalize (c.step e).desk = f at hmoved hsome
  have hstate : ∀ {g}, c.desk.session.state = .loggedIn g → c.desk.flight.isSome = true := by
    intro g hin
    have hother : c.desk.session.state = .loggedOut := hout
    rw [hother] at hin
    cases hin
  cases hmoved with
  | asked asked =>
    cases asked with
    | launched idle state current => exact hstate state
    | joined state under => rw [under]; rfl
    | signedOut state => exact hsome
    | advanced idle state current ne => exact hsome
  | landed flight landed => cases hsome
  | _ => exact hsome

/-- **Run.**  No flight is launched. -/
theorem Lapse.launches_eq_nil (h : Lapse c es) : c.launches es = [] := by
  induction es generalizing c with
  | nil => rfl
  | cons e es ih =>
    rw [launches, launched?_of_loggedOut h.ledger.desk h.session.state e, ih h.step]
    rfl

/-! ### What is sent meanwhile -/

/-- Task `n` has sent nothing, or its request just as it was handed over. -/
def Bare (c : Client) (n : Nat) : Prop :=
  ∀ t r, c.tasks[n]? = some t → t.request = .ok r →
    c.sentBy (.task n) = [] ∨
      c.sentBy (.task n) = [r] ∧ (t.stage = .sent none ∨ t.stage = .done)

/-- Whoever asks for other credentials has shown some before, or has sent nothing. -/
theorem Asks.sentBy_of_bare {occasion : Occasion} {g : Generation} (h : Asks c n e occasion g)
    (hbare : c.Bare n) {t : Task} {r : Http.Request} (htask : c.tasks[n]? = some t)
    (hr : t.request = .ok r) : c.sentBy (.task n) = [] := by
  rcases hbare t r htask hr with hnil | ⟨-, hstage⟩
  · exact hnil
  · -- it would have come too far to ask, or not have anything that could be refused
    exfalso
    obtain ⟨t', htask', hcases⟩ := h.stage_cases
    cases htask'.symm.trans htask
    rcases hstage with heq | heq
    · simp [heq] at hcases
    · simp [heq] at hcases

theorem Hears.sentBy_of_bare {occasion : Occasion} {g : Generation} {outcome : SingleFlight.Outcome}
    (h : Hears c n e occasion g outcome) (hbare : c.Bare n) {t : Task} {r : Http.Request}
    (htask : c.tasks[n]? = some t) (hr : t.request = .ok r) : c.sentBy (.task n) = [] := by
  cases h with
  | atOnce asks answered => exact asks.sentBy_of_bare hbare htask hr
  | landed event step task stage =>
    cases task.symm.trans htask
    rcases hbare t r htask hr with hnil | ⟨-, heq⟩
    · exact hnil
    · rw [stage] at heq
      rcases heq with heq | heq <;> cases heq

/-- **Step.**  Without credentials in use there are none to show. -/
theorem Acted.bare {t : Task} {c' : Client} (h : Acted c e n t c') (hc : c.Ledger)
    (hnone : c.session.current = none) (htask : c.tasks[n]? = some t) (hbare : c.Bare n) :
    c'.Bare n := by
  intro t' r htask' hr
  have hown : (c'.file n).task = some t' := htask'
  show (c'.file n).sent = [] ∨ (c'.file n).sent = [r] ∧ _
  cases h with
  | @sendsFirst r' signed used request due shown authorized =>
    have hnil : c.sentBy (.task n) = [] := (((hc.kept n t htask).showed r' request).of_due due).1
    have hused : used = none := by
      by_contra hsome
      obtain ⟨snapshot, rfl⟩ := Option.ne_none_iff_exists'.mp hsome
      rw [shown snapshot rfl] at hnone
      cases hnone
    subst hused
    obtain ⟨htask, hsent, -⟩ := file_sends c e htask (.sent none) signed
    cases htask.symm.trans hown
    cases request.symm.trans hr
    cases authorized
    rw [hsent, hnil]
    exact Or.inr ⟨rfl, Or.inl rfl⟩
  | @sendsAgain r' signed g fresh request hears authorized =>
    -- whoever hears of newer credentials after a refusal has sent something
    have hrefused := hears.showed htask request ((hc.kept n t htask).showed r' request)
    rw [show (c.file n).sent = [] from hears.sentBy_of_bare hbare htask request] at hrefused
    cases hrefused
  | joins asks under =>
    obtain ⟨htask', hsent, -⟩ := file_waits c e htask _ _
    cases htask'.symm.trans hown
    rw [hsent]
    exact Or.inl (asks.sentBy_of_bare hbare htask hr)
  | launches asks idle state now =>
    rw [now] at hnone
    cases hnone
  | ends ended =>
    obtain ⟨htask', hsent, -⟩ := Ended.own c e ended htask
    cases htask'.symm.trans hown
    rw [hsent]
    exact (hbare t r htask hr).imp_right fun h => ⟨h.1, Or.inr rfl⟩

/-- **Step.**  What happens while there are no credentials shows none. -/
theorem bare_step (hc : c.Ledger) (hnone : c.session.current = none) (e : Event)
    (hbare : c.Bare n) : (c.step e).Bare n := by
  cases fate_spec hc e n with
  | same file =>
    intro t r htask hr
    have htask' : c.tasks[n]? = some t := (congrArg File.task file).symm.trans htask
    rw [show (c.step e).sentBy (.task n) = c.sentBy (.task n) from congrArg File.sent file]
    exact hbare t r htask' hr
  | spawned stage vacant file =>
    intro t r htask hr
    exact Or.inl (congrArg File.sent file)
  | aborted file =>
    intro t r htask hr
    obtain ⟨t₀, ht₀, rfl⟩ := Option.map_eq_some_iff.mp ((congrArg File.task file).symm.trans htask)
    rw [show (c.step e).sentBy (.task n) = c.sentBy (.task n) from congrArg File.sent file]
    exact (hbare t₀ r ht₀ hr).imp_right fun h => ⟨h.1, Or.inr rfl⟩
  | acted task concerns acted => exact acted.bare hc hnone task hbare

/-- **Run.**  What is sent for the first time shows no credentials. -/
theorem Lapse.bare_after (h : Lapse c es) (hbare : c.Bare n) : (c.after es).Bare n := by
  induction es generalizing c with
  | nil => exact hbare
  | cons e es ih => exact ih h.step (bare_step h.ledger h.session.current e hbare)

end lapse

/-! ### The main theorem -/

/-- **The end of a session is final.**  Take any run of a client in which the session ends
with event `e`, and its store can be written at that time.  Let anything happen then but a
sign-in, and let nobody else alter the record.

Then nobody is signed in, and there are no credentials, here or in the store.  No flight
has been launched; one that was about to begin may have sent its request, and no other.
Whatever was sent for the first time was sent just as it was handed over. -/
theorem signedOut_until_signIn (options : Options) (store : Store) (now : Time.Instant)
    (past : List Event) (e : Event) (later : List Event) :
    let before := (Client.new options store now).after past
    let c₀ := before.step e
    let c := c₀.after later
    Ends before e → before.session.store.Writable →
    ¬ During c₀ later SignsIn → ¬ During c₀ later Alters →
    c.session.state = .loggedOut ∧ c.session.credentials? = none ∧ c.session.store.load = none ∧
    c₀.launches later = [] ∧
    c.departures.length ≤ c₀.departures.length + c₀.boarding.length ∧
    ∀ n t r, c.tasks[n]? = some t → t.request = .ok r → c₀.sentBy (.task n) = [] →
      c.sentBy (.task n) = [] ∨ c.sentBy (.task n) = [r] := by
  intro before c₀ c hends hwritable hunsigned hunaltered
  have hbefore : before.Ledger := (Ledger.new options store now).after past
  have hc₀ : c₀.Ledger := hbefore.step e
  have hlapse : Lapse c₀ later := ⟨hc₀, hends.over hbefore hwritable, hunsigned, hunaltered⟩
  have hover : c.session.Over := hlapse.over_after
  have hlaunches := hlapse.launches_eq_nil
  have hsent := departures_le hc₀ later
  rw [hlaunches] at hsent
  refine ⟨hover.state, hover.credentials?, hover.load, hlaunches, ?_, ?_⟩
  · have hle : c.departures.length + c.boarding.length ≤
        c₀.departures.length + c₀.boarding.length + 0 := hsent
    omega
  · intro n t r ht hr hnil
    have hunsent : c₀.Bare n := fun _ _ _ _ => Or.inl hnil
    have hbare : c.Bare n := hlapse.bare_after hunsent
    rcases hbare t r ht hr with hnothing | ⟨hsame, -⟩
    · exact Or.inl hnothing
    · exact Or.inr hsame

/-- Somebody signs in, the credentials are refused, and a flight is under way. -/
def refreshingEvents : List Event :=
  [.signIn "a@b.c" "pw", .go 0, .reply 0 (granting "one"), .spawn (.ok page), .go 0,
    .reply 1 denying, .go 0]

/-- The flight succeeds after all, the task that has waited for it hears of it, and there
is another request. -/
def belatedEvents : List Event :=
  [.reply 2 (granting "two"), .go 0, .spawn (.ok page), .go 0]

/-- Whoever signs out meanwhile stays signed out, and the other request is sent without
credentials. -/
theorem signedOut_until_signIn_belated :
    let before := (Client.new {} .inMemory epoch).after refreshingEvents
    let c₀ := before.step .signOut
    let c := c₀.after belatedEvents
    before.session.state = .refreshing .first ∧ before.departures = [.first] ∧
    Ends before .signOut ∧ before.session.store.Writable ∧
    ¬ During c₀ belatedEvents SignsIn ∧ ¬ During c₀ belatedEvents Alters ∧
    c.session.state = .loggedOut ∧ c.session.credentials? = none ∧ c.session.store.load = none ∧
    c.departures.length ≤ 1 ∧ (c.sentBy (.task 2)).map (·.authorization?) = [none] := by
  intro before c₀ c
  have hends : Ends before .signOut := Or.inl (Or.inl rfl)
  have hnew : (Client.new {} .inMemory epoch).Ledger := .new {} .inMemory epoch
  have hwritable : before.session.store.Writable :=
    writable_after hnew (.memory none) (by simp [refreshingEvents])
  have hledger : c₀.Ledger := (hnew.after refreshingEvents).step _
  have houtside : Outside c₀ belatedEvents := by decide +kernel
  have hunsigned := houtside.not_signsIn hledger
  have hunaltered : ¬ During c₀ belatedEvents Alters := by
    rintro ⟨past, e, later, heq, store, rfl, -⟩
    have hmem : Event.store store ∈ belatedEvents := by rw [heq]; simp
    simp [belatedEvents] at hmem
  obtain ⟨hstate, hnone, hload, -, hdepartures, -⟩ :=
    signedOut_until_signIn {} .inMemory epoch refreshingEvents .signOut belatedEvents hends
      hwritable hunsigned hunaltered
  have hbefore : c₀.departures.length + c₀.boarding.length = 1 := by decide +kernel
  rw [hbefore] at hdepartures
  exact ⟨by decide +kernel, by decide +kernel, hends, hwritable, hunsigned, hunaltered, hstate,
    hnone, hload, hdepartures, by decide +kernel⟩

end Client

end SessionKeeper
