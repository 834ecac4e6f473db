import SessionKeeper.Proofs.Client.Ahead
import SessionKeeper.Proofs.Client.Finality
import SessionKeeper.Proofs.Client.PassThrough

/-! # Sign-ins are all or nothing

A sign-in has two turns.  In the first one it sends its request, with nothing of the session,
and nothing else happens.  In the second one it gets its reply and ends, and only then may the
session change (`SignInTurn`): if the service issues credentials they are taken into use, under
a generation that is newer than all before; if the service says 401 the session is ended, and
the sign-in is asked for; and whatever else the reply is, the session stays as it is
(`SignInEnds`).

It makes no difference what has become of the session since the sign-in was begun, nor what
else goes on, such as a refresh (`signIn_all_or_nothing`).

No more of Mathlib than the imports bring. -/

namespace SessionKeeper

namespace Client

/-! ### How sign-ins end -/

/-- How a sign-in ends with a reply, and what it leaves of session `s`. -/
inductive SignInEnds (name : String) (s : Session) : Reply → Client.Outcome → Session → Prop where
  /-- The service issues credentials.  A cookie takes the place of the refresh token in the
  body. -/
  | granted {r : Http.Response} {x : Credentials} (success : 200 ≤ r.status ∧ r.status ≤ 299)
      (record : Credentials.readRecord? (Text.glyphs r.body) = some x)
      (token : x.accessToken ≠ "") :
      SignInEnds name s (.response r) (.signedIn s.nextGeneration)
        (s.signIn { x with refreshToken := r.cookie? name <|> x.refreshToken }).2
  | rejected {r : Http.Response} (status : r.status = 401) :
      SignInEnds name s (.response r) (.failed .signInRejected) s.signOut.2.claimPrompt.2
  | unreadable {r : Http.Response} (success : 200 ≤ r.status ∧ r.status ≤ 299)
      (record : Credentials.readRecord? (Text.glyphs r.body) = none) :
      SignInEnds name s (.response r) (.failed (.internal .issuance)) s
  | empty {r : Http.Response} {x : Credentials} (success : 200 ≤ r.status ∧ r.status ≤ 299)
      (record : Credentials.readRecord? (Text.glyphs r.body) = some x)
      (token : x.accessToken = "") :
      SignInEnds name s (.response r) (.failed (.internal .emptyIssuance)) s
  /-- A fault, or any other status. -/
  | failed {reply : Reply} {error : CallError} (returns : Returns reply (.failed error)) :
      SignInEnds name s reply (.failed error) s
  | crashed : SignInEnds name s .crash .crashed s

/-- What a sign-in makes of a success is told by the response. -/
theorem SignInEnds.of_success {options : Options} {s s' : Session} {r : Http.Response}
    {o : Client.Outcome} (hsuccess : 200 ≤ r.status ∧ r.status ≤ 299)
    (hmakes : Makes options s .signIn (.response r) o s') :
    SignInEnds options.refreshCookieName s (.response r) o s' := by
  cases hmakes with
  | unissued issued =>
    unfold Credentials.issuedBy at issued
    split at issued
    · cases issued
      exact .unreadable hsuccess ‹_›
    · split at issued
      · cases issued
        exact .empty hsuccess ‹_› (String.isEmpty_iff.mp ‹_›)
      · cases issued
  | issued issued =>
    unfold Credentials.issuedBy at issued
    split at issued
    · cases issued
    · split at issued
      · cases issued
      · rename_i hfull
        cases issued
        refine .granted hsuccess ‹_› ?_
        intro hempty
        exact hfull (String.isEmpty_iff.mpr hempty)

theorem SignInEnds.of_makes {options : Options} {s s' : Session} {reply : Reply}
    {o o' : Client.Outcome} (hreturns : Returns reply o)
    (hmakes : Makes options s .signIn o o' s') :
    SignInEnds options.refreshCookieName s reply o' s' := by
  cases hreturns with
  | response success => exact .of_success success hmakes
  | fault f =>
    cases hmakes
    exact .failed (.fault f)
  | validation status other =>
    cases hmakes
    exact .failed (.validation status other)
  | unexpected failure other =>
    cases hmakes
    exact .failed (.unexpected failure other)

/-! ### What a sign-in does -/

/-- What a sign-in, which is task `n` with a request, makes of client `d` when its turn comes. -/
inductive SignInTurn (n : Nat) (request : Http.Request) (d : Client) (e : Event) (d' : Client) :
    Prop where
  /-- It begins.  All that happens is that its request is sent. -/
  | sends (starts : Starts n request d e) (desk : d'.desk = d.desk)
      (settled : d'.settled = d.settled) (sent : d'.sent = d.sent ++ [⟨.task n, request⟩])
      (own : d'.sentBy (.task n) = [request])
  /-- It gets the reply to its request, and ends. -/
  | ends {id : Nat} {reply : Reply} {o : Client.Outcome} (event : e = .reply id reply)
      (awaited : d.awaiting.lookup id = some (.task n))
      (ends : SignInEnds d.options.refreshCookieName d.session reply o d'.session)
      (settled : d'.settled = d.settled ++ [(n, o)]) (flight : d'.desk.flight = d.desk.flight)
      (ready : d'.ready = d.ready) (sent : d'.sent = d.sent)
      (own : d'.sentBy (.task n) = [request])

/-- Task `n` is a sign-in with a request, and sends it once before it ends. -/
structure SigningIn (n : Nat) (request : Http.Request) (d : Client) : Prop where
  kind : request.kind = .signIn
  task : ∃ stage, d.tasks[n]? = some ⟨.signIn, .ok request, stage⟩
  own : d.outcomesOf n ≠ [] → d.sentBy (.task n) = [request]

section turns

variable {d : Client} {e : Event} {n : Nat} {request : Http.Request}

/-- Whoever shows no credentials and waits for a reply has sent the request as it is, and
once. -/
theorem Showed.bare {stage : Stage} {sent : List Http.Request} (h : Showed request stage sent)
    (hkind : request.kind ≠ .regular) (hawaits : stage.awaitsReply = true) :
    stage = .sent none ∧ sent = [request] := by
  cases h with
  | @sent used signed kind authorized =>
    obtain rfl : used = none := kind.resolve_right hkind
    cases authorized
    exact ⟨rfl, rfl⟩
  | resent kind authorized again => exact absurd kind hkind
  | starting => cases hawaits
  | ahead kind => cases hawaits
  | refused kind authorized => cases hawaits
  | done was => cases hawaits

theorem SigningIn.not_regular (h : SigningIn n request d) : request.kind ≠ .regular := by
  rw [h.kind]
  decide

/-- A sign-in that begins sends its request. -/
theorem SigningIn.begins (h : SigningIn n request d) (hc : d.Ledger)
    (hstarts : Starts n request d e) : SignInTurn n request d e (d.step e) := by
  have hattempts : Attempts n request d e none (.sent none) := .bare hstarts h.not_regular
  obtain ⟨hown, hsettled, hdesk⟩ := hattempts.sends hc rfl
  rw [hstarts.unsent hc, List.nil_append] at hown
  refine .sends hstarts hdesk hsettled ?_ hown
  rw [hattempts.step_eq hc]
  show (d.noting e).sent ++ [⟨.task n, request⟩] = _
  rw [noting_sent]

/-- A sign-in ends with the reply to its request, whatever the reply is. -/
theorem SigningIn.hears {id : Nat} (h : SigningIn n request d) (hc : d.Ledger)
    (hawaited : d.awaiting.lookup id = some (.task n)) (reply : Reply) :
    SignInTurn n request d (.reply id reply) (d.step (.reply id reply)) := by
  obtain ⟨stage, htask⟩ := h.task
  obtain ⟨r, hr, hawaits, hstep⟩ := hc.receive_eq hawaited htask reply
  cases hr
  have hshowed : Showed request stage (d.sentBy (.task n)) := (hc.kept n _ htask).showed request rfl
  obtain ⟨rfl, hsent⟩ := hshowed.bare h.not_regular hawaits
  have hown : ∀ d' : Client, d'.sent = d.sent → d'.sentBy (.task n) = [request] := by
    intro d' hsame
    rw [sentBy, hsame]
    exact hsent
  by_cases hcrash : reply = .crash
  · subst hcrash
    rw [hstep]
    exact .ends rfl hawaited .crashed rfl rfl rfl rfl (hown _ rfl)
  · by_cases hrefusal : ∃ r, reply = .response r ∧ r.status = 401
    · obtain ⟨r, rfl, hstatus⟩ := hrefusal
      have hends : d.step (.reply id (.response r)) =
          (d.noting (.reply id (.response r))).expel n .signInRejected := by
        rw [hstep, receive_of_refused rfl hstatus]
        simp only [refuse, h.kind]
      have hbeside : Beside (d.noting (.reply id (.response r)))
          (d.noting (.reply id (.response r))).signOut := .signOut _
      rw [hends]
      refine .ends rfl hawaited ?_ (expel_settled _ _ _) hbeside.flight hbeside.ready hbeside.sent
        (hown _ hbeside.sent)
      have hsession : ((d.noting (.reply id (.response r))).expel n .signInRejected).session =
          d.session.signOut.2.claimPrompt.2 := congrArg SingleFlight.session (expel_desk _ _ _)
      rw [hsession]
      exact .rejected hstatus
    · -- all other replies are handed on
      obtain ⟨o, hreturns⟩ := exists_returns hcrash fun r hr hstatus => hrefusal ⟨r, hr, hstatus⟩
      have handsOn := hreturns.handsOn hc hawaited htask
      obtain ⟨o', hmakes, hsettled⟩ := handsOn.made
      exact .ends rfl hawaited (.of_makes hreturns hmakes) hsettled handsOn.flight handsOn.ready
        handsOn.sent (hown _ handsOn.sent)

/-- **A sign-in has these two turns, and no others.** -/
theorem SigningIn.turn {t : Task} (h : SigningIn n request d) (hc : d.Ledger)
    (htask : d.tasks[n]? = some t) (hconcerns : Concerns d n t e) :
    SignInTurn n request d e (d.step e) := by
  obtain ⟨stage, htask'⟩ := h.task
  cases htask.symm.trans htask'
  cases hconcerns with
  | @start place step hstage =>
    cases hstage
    exact h.begins hc ⟨⟨place, rfl, step⟩, .signIn, htask⟩
  | wake step hstage =>
    -- only regular requests wait for newer credentials
    cases hstage
    have hkind := ((hc.kept n _ htask).showed request rfl).kind_of_waiting
    rw [h.kind] at hkind
    cases hkind
  | @reply id reply awaited awaits => exact h.hears hc awaited reply

/-! ### Runs -/

/-- **Step.**  A sign-in sends its request once before it ends. -/
theorem SigningIn.step (h : SigningIn n request d) (hc : d.Ledger) (e : Event) :
    SigningIn n request (d.step e) := by
  obtain ⟨stage, htask⟩ := h.task
  obtain ⟨stage', htask'⟩ := task_step hc e htask
  refine ⟨h.kind, ⟨stage', htask'⟩, ?_⟩
  have hunmoved : (d.step e).outcomesOf n = d.outcomesOf n →
      (d.step e).sentBy (.task n) = d.sentBy (.task n) →
      (d.step e).outcomesOf n ≠ [] → (d.step e).sentBy (.task n) = [request] := by
    intro houtcomes hsent
    rw [houtcomes, hsent]
    exact h.own
  cases fate_spec hc e n with
  | same file => exact hunmoved (congrArg File.outcomes file) (congrArg File.sent file)
  | spawned _ vacant file => cases vacant.symm.trans htask
  | aborted file => exact hunmoved (congrArg File.outcomes file) (congrArg File.sent file)
  | acted task concerns acted =>
    intro _
    cases h.turn hc task concerns with
    | sends starts desk settled sent own => exact own
    | ends event awaited ends settled flight ready sent own => exact own

/-- **Run.**  A sign-in sends its request once before it ends. -/
theorem SigningIn.after (h : SigningIn n request d) (hc : d.Ledger) (es : List Event) :
    SigningIn n request (d.after es) := by
  induction es generalizing d with
  | nil => exact h
  | cons e es ih => exact ih (h.step hc e) (hc.step e)

end turns

/-- A sign-in that has only been called for. -/
theorem SigningIn.spawned {c : Client} (hc : c.Ledger) (email password : String) :
    SigningIn c.tasks.length (c.signInRequest email password)
      (c.step (.signIn email password)) where
  kind := rfl
  task := ⟨.starting, List.getElem?_concat_length⟩
  own hends := by
    have hvacant := hc.vacant _ (Nat.le_refl c.tasks.length)
    have hnone : c.outcomesOf c.tasks.length = [] := congrArg File.outcomes hvacant
    exact absurd hnone hends

/-- **Sign-ins are all or nothing.**  Take any run of a client, let the application call for a
sign-in, and let the run go on in whatever way.

* The call itself does nothing to the session, and sends nothing.
* When it is the turn of the sign-in, it sends its request, or it gets the reply and ends.  The
  session changes at most then, in one of the two ways that `SignInEnds` tells, and nobody else
  is concerned.  Every reply to the request is such a turn.
* The generation that the sign-in returns is that of the credentials in use, and newer than all
  that were handed out before, at any time.
* A sign-in that has ended has sent its request once, and has no turn any more. -/
theorem signIn_all_or_nothing (options : Options) (store : Store) (now : Time.Instant)
    (past : List Event) (email password : String) (later : List Event) :
    let c₀ := Client.new options store now
    let c := c₀.after past
    let n := c.tasks.length
    let request := c.signInRequest email password
    let d := (c.step (.signIn email password)).after later
    (c.step (.signIn email password)).desk = c.desk ∧
    (c.step (.signIn email password)).sent = c.sent ∧
    (∀ e t, d.tasks[n]? = some t → Concerns d n t e → SignInTurn n request d e (d.step e)) ∧
    (∀ id, d.awaiting.lookup id = some (.task n) →
      ∃ t, d.tasks[n]? = some t ∧ ∀ reply, Concerns d n t (.reply id reply)) ∧
    (∀ e t g, d.tasks[n]? = some t → Concerns d n t e →
      (d.step e).settled = d.settled ++ [(n, .signedIn g)] →
      (∃ x, (d.step e).session.current = some ⟨g, x⟩) ∧
      ∀ es es' h, past ++ .signIn email password :: later = es ++ es' →
        (c₀.after es).session.HasIssued h → h < g) ∧
    (d.outcomesOf n ≠ [] →
      d.sentBy (.task n) = [request] ∧ ∀ e t, d.tasks[n]? = some t → ¬ Concerns d n t e) := by
  intro c₀ c n request d
  have hnew : c₀.Ledger := .new options store now
  have hc : c.Ledger := hnew.after past
  have hd : d.Ledger := (hc.step _).after later
  have hsigning : SigningIn n request d :=
    (SigningIn.spawned hc email password).after (hc.step _) later
  refine ⟨rfl, rfl, ?_, ?_, ?_, ?_⟩
  · intro e t htask hconcerns
    exact hsigning.turn hd htask hconcerns
  · intro id hawaited
    obtain ⟨t, -, htask, -, hawaits⟩ := hd.awaits id n hawaited
    exact ⟨t, htask, fun reply => .reply hawaited hawaits⟩
  · intro e t g htask hconcerns hsettled
    cases hsigning.turn hd htask hconcerns with
    | sends starts desk settled sent own =>
      rw [settled] at hsettled
      simp at hsettled
    | @ends id reply o event awaited ends settled flight ready sent own =>
      rw [settled, List.append_cancel_left_eq, List.cons.injEq, Prod.mk.injEq] at hsettled
      obtain ⟨⟨-, rfl⟩, -⟩ := hsettled
      generalize (d.step e).session = s at ends
      cases ends with
      | granted success record token =>
        refine ⟨⟨_, rfl⟩, ?_⟩
        intro es es' h hsplit hissued
        -- what was handed out then is still handed out now, and the next one comes after it
        have hrun : d = (c₀.after es).after es' := by
          show ((c₀.after past).step (.signIn email password)).after later = _
          rw [← after_append, ← hsplit, after_append]
          rfl
        have hfollows := follows_after (hnew.after es) es'
        rw [← hrun] at hfollows
        have hle := (hfollows.hasIssued hissued).2
        have hnext := d.session.nextGeneration_number
        rw [Generation.lt_iff]
        omega
  · intro hends
    refine ⟨hsigning.own hends, ?_⟩
    intro e t htask hconcerns
    exact hends ((hd.kept n t htask).outcomes hconcerns.live)

/-- A success without credentials. -/
def vacuous : Http.Response :=
  { status := 200, body := Text.bytesOf "\x7b\x7d" }

/-- The service answers a sign-in with nothing while a refresh is under way.  The session, which
is being refreshed, is not touched by that. -/
theorem signIn_all_or_nothing_vacuous :
    let c := (Client.new {} .inMemory epoch).after refreshingEvents
    let d := (c.step (.signIn "a@b.c" "pw")).after [.go 0]
    let d' := d.step (.reply 3 (.response vacuous))
    d.session.state = .refreshing .first ∧ d.awaiting.lookup 3 = some (.task 2) ∧
    d'.session = d.session ∧ d'.desk.flight = d.desk.flight ∧
    d'.settled = d.settled ++ [(2, .failed (.internal .issuance))] ∧
    d'.sentBy (.task 2) = [c.signInRequest "a@b.c" "pw"] := by
  intro c d d'
  have hawaited : d.awaiting.lookup 3 = some (.task 2) := by decide +kernel
  have hlength : c.tasks.length = 2 := by decide +kernel
  obtain ⟨-, -, hturns, hreplies, -, -⟩ :=
    signIn_all_or_nothing {} .inMemory epoch refreshingEvents "a@b.c" "pw" [.go 0]
  obtain ⟨t, htask, hconcerns⟩ := hreplies 3 (by rw [hlength]; exact hawaited)
  have hturn := hturns _ t htask (hconcerns (.response vacuous))
  rw [hlength] at hturn
  refine ⟨by decide +kernel, hawaited, ?_⟩
  have hrecord : Credentials.readRecord? (Text.glyphs vacuous.body) = none := by decide +kernel
  cases hturn with
  | sends starts desk settled sent own =>
    obtain ⟨place, heq, -⟩ := starts.step
    cases heq
  | @ends id reply o event awaited ends settled flight ready sent own =>
    cases event
    have hends : o = .failed (.internal .issuance) ∧ d'.session = d.session := by
      show _ ∧ (d.step (.reply 3 (.response vacuous))).session = d.session
      generalize (d.step (.reply 3 (.response vacuous))).session = s at ends
      cases ends with
      | granted success record token => cases hrecord.symm.trans record
      | rejected status => cases status
      | unreadable success record => exact ⟨rfl, rfl⟩
      | empty success record token => cases hrecord.symm.trans record
      | failed returns =>
        cases returns with
        | validation status other => exact absurd status.1 (by decide)
        | unexpected failure other => exact absurd ⟨by decide, by decide⟩ failure
    obtain ⟨rfl, hsession⟩ := hends
    exact ⟨hsession, flight, settled, own⟩

end Client

end SessionKeeper
