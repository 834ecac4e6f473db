import SessionKeeper.Client.Run
import SessionKeeper.Proofs.Refresh.Desk

/-! # What a step of a client can do

A client is one large state, and most of what it does touches little of it.
Here every step is taken apart once.

* A task that does not wait any more goes on in one of five ways (`Went`):
  `begin_spec`, `ask_spec` and `proceed_spec` say so, one for each occasion.
* A reply to a task comes to one of seven things (`Received`).
* An event does one of seven things to the client (`step_spec`).
* The session and its flight change in few ways over all that
  (`SingleFlight.Moved`), and a client stays sound in each (`sound_after`).
* What has happened in a run is said of its events (`During`).

Core Lean 4 only; no Mathlib. -/

namespace SessionKeeper

open SingleFlight (Flight Asked Landed)

/-! ### The session and its flight -/

/-- What can become of a session and its flight in a step of a client. -/
inductive SingleFlight.Moved (f : SingleFlight) : SingleFlight → Prop where
  | same : Moved f f
  | asked {caller : Nat} {refused : Generation} {reply : Reply} {f' : SingleFlight}
      (asked : Asked f caller refused reply f') : Moved f f'
  | landed {flight : Flight} {result : Except CallError Credentials} {outcome : Outcome}
      {s : Session} (under : f.flight = some flight)
      (landed : Landed f.session flight.generation result outcome s) : Moved f ⟨s, none⟩
  | signedIn (c : Credentials) : Moved f { f with session := (f.session.signIn c).2 }
  | signedOut : Moved f { f with session := f.session.signOut.2.claimPrompt.2 }
  | prompted : Moved f { f with session := f.session.claimPrompt.2 }
  | stored (store : Store) : Moved f { f with session := { f.session with store } }

namespace SingleFlight

variable {f f' : SingleFlight}

theorem Moved.sound (h : Moved f f') (hf : f.Sound) : f'.Sound := by
  cases h with
  | same => exact hf
  | asked asked => exact asked.sound hf
  | landed under landed => exact landed.sound hf.coherent
  | signedIn c => exact hf.signIn c
  | signedOut => exact hf.signOut.claimPrompt
  | prompted => exact hf.claimPrompt
  | stored store => exact hf.store store

/-- A flight that a result arrives for lands, if it is the one under way. -/
theorem settle_moved (hf : f.Sound) (g : Generation) (result : Except CallError Credentials) :
    Moved f (f.settle g result).2 := by
  cases hflight : f.flight with
  | none =>
    simp only [settle, hflight]
    exact .same
  | some flight =>
    by_cases hg : flight.generation = g
    · -- the only case in which anything happens
      subst hg
      obtain ⟨outcome, s, hsettle, hlanded⟩ := settle_spec hf hflight result
      rw [hsettle]
      exact .landed hflight hlanded
    · simp only [settle, hflight, if_neg hg]
      exact .same

end SingleFlight

namespace Client

/-! ### What the parts of a step leave alone -/

section parts

variable (c : Client) (n : Nat) (o : Client.Outcome) (e : CallError)

@[simp] theorem finish_desk : (c.finish n o).desk = c.desk := rfl

@[simp] theorem finish_settled : (c.finish n o).settled = c.settled ++ [(n, o)] := rfl

@[simp] theorem surface_desk : (c.surface n e).desk = c.desk := by
  unfold surface
  split <;> rfl

@[simp] theorem surface_settled : (c.surface n e).settled = c.settled ++ [(n, .failed e)] := by
  unfold surface
  split <;> rfl

@[simp] theorem promptSignIn_desk :
    c.promptSignIn.desk = { c.desk with session := c.session.claimPrompt.2 } := by
  unfold promptSignIn
  rcases c.session.claimPrompt with ⟨_ | _, s⟩ <;> rfl

@[simp] theorem promptSignIn_settled : c.promptSignIn.settled = c.settled := by
  unfold promptSignIn
  rcases c.session.claimPrompt with ⟨_ | _, s⟩ <;> rfl

@[simp] theorem promptSignIn_failureNotices :
    c.promptSignIn.failureNotices = c.failureNotices := by
  unfold promptSignIn
  rcases c.session.claimPrompt with ⟨_ | _, s⟩ <;> rfl

@[simp] theorem signOut_desk :
    c.signOut.desk = { c.desk with session := c.session.signOut.2.claimPrompt.2 } := by
  rw [signOut, promptSignIn_desk]
  rfl

@[simp] theorem signOut_settled : c.signOut.settled = c.settled := by
  rw [signOut, promptSignIn_settled]
  rfl

@[simp] theorem signOut_failureNotices : c.signOut.failureNotices = c.failureNotices := by
  rw [signOut, promptSignIn_failureNotices]
  rfl

@[simp] theorem expel_desk :
    (c.expel n e).desk = { c.desk with session := c.session.signOut.2.claimPrompt.2 } := by
  rw [expel, finish_desk, signOut_desk]

@[simp] theorem expel_settled : (c.expel n e).settled = c.settled ++ [(n, .failed e)] := by
  rw [expel, finish_settled, signOut_settled]

@[simp] theorem settleFlight_desk (g : Generation) (result : Except CallError Credentials) :
    (c.settleFlight g result).desk = (c.desk.settle g result).2 := by
  unfold settleFlight
  rcases c.desk.settle g result with ⟨_ | ⟨waiters, outcome⟩, f⟩ <;> rfl

@[simp] theorem settleFlight_settled (g : Generation) (result : Except CallError Credentials) :
    (c.settleFlight g result).settled = c.settled := by
  unfold settleFlight
  rcases c.desk.settle g result with ⟨_ | ⟨waiters, outcome⟩, f⟩ <;> rfl

@[simp] theorem settleFlight_failureNotices (g : Generation)
    (result : Except CallError Credentials) :
    (c.settleFlight g result).failureNotices = c.failureNotices := by
  unfold settleFlight
  rcases c.desk.settle g result with ⟨_ | ⟨waiters, outcome⟩, f⟩ <;> rfl

end parts

/-! ### Errors of the program itself -/

/-- Credentials that can stand in a request take the place of any authorization of its own. -/
theorem authorize_of_isFieldValue (r : Http.Request) {credentials : Credentials}
    (h : Http.isFieldValue credentials.authorization = true) :
    authorize r (some credentials) =
      .ok { r with headers := r.headers.set Http.authorization credentials.authorization } := by
  simp only [authorize, h, if_true]

theorem authorize_of_not_isFieldValue (r : Http.Request) {credentials : Credentials}
    (h : Http.isFieldValue credentials.authorization = false) :
    authorize r (some credentials) = .error (.internal .authorization) := by
  simp [authorize, h]

/-- Credentials that cannot stand in a request are nobody else's fault. -/
theorem internal_of_authorize {r : Http.Request} {used : Option Credentials} {e : CallError}
    (h : authorize r used = .error e) : ∃ cause, e = .internal cause := by
  unfold authorize at h
  split at h
  · cases h
  · split at h
    · cases h
    · cases h
      exact ⟨_, rfl⟩

/-- Neither is an answer that issues no credentials. -/
theorem internal_of_issuedBy {r : Http.Response} {name : String} {e : CallError}
    (h : Credentials.issuedBy r name = .error e) : ∃ cause, e = .internal cause := by
  unfold Credentials.issuedBy at h
  split at h
  · cases h
    exact ⟨_, rfl⟩
  · split at h
    · cases h
      exact ⟨_, rfl⟩
    · cases h

/-! ### A task goes on -/

/-- What becomes of a client when task `n`, whose request is `r`, goes on. -/
inductive Went (c : Client) (n : Nat) (r : Http.Request) : Client → Prop where
  /-- It sends its request, and comes to a stage. -/
  | sends {used : Option Credentials} {signed : Http.Request} {stage : Stage}
      (authorized : authorize r used = .ok signed) :
      Went c n r ((c.setStage n stage).transmit (.task n) signed)
  /-- The credentials cannot stand in a request. -/
  | unsendable {used : Option Credentials} {e : CallError}
      (authorized : authorize r used = .error e) : Went c n r (c.surface n e)
  /-- It waits for the flight that is under way. -/
  | joins {occasion : Occasion} {refused : Generation} {superseded : Bool} {f : SingleFlight}
      (asked : Asked c.desk n refused (.joined superseded) f) :
      Went c n r ({ c with desk := f }.setStage n (.waiting occasion refused superseded))
  /-- It waits for a new flight. -/
  | launches {occasion : Occasion} {refused g : Generation} {current : Credentials}
      {f : SingleFlight} (asked : Asked c.desk n refused (.launched g current) f) :
      Went c n r (({ c with desk := f }.setStage n (.waiting occasion refused false)).enable
        [.launch g current])
  /-- There are no newer credentials, and the task ends together with the
  session. -/
  | expelled {refusal : Refusal} : Went c n r (c.expel n refusal.toCallError)

theorem send_spec (c : Client) (n : Nat) (r : Http.Request) (used : Option Credentials)
    (stage : Stage) : Went c n r (c.send n r used stage) := by
  unfold send
  cases h : authorize r used with
  | error e => exact .unsendable h
  | ok signed => exact .sends h

theorem proceed_spec (c : Client) (n : Nat) (r : Http.Request) (occasion : Occasion)
    (outcome : SingleFlight.Outcome) : Went c n r (c.proceed n r occasion outcome) := by
  unfold proceed
  cases outcome with
  | error refusal => exact .expelled
  | ok fresh =>
    cases occasion with
    | ahead => exact send_spec c n r _ _
    | refused => exact send_spec c n r _ _

theorem ask_spec {c : Client} (h : c.desk.Sound) (n : Nat) (r : Http.Request) (occasion : Occasion)
    (refused : Generation) : Went c n r (c.ask n r occasion refused) := by
  unfold ask
  obtain ⟨reply, f, hask, hasked⟩ := SingleFlight.ask_spec h n refused
  rw [hask]
  cases hasked with
  | signedOut state => exact proceed_spec c n r occasion _
  | advanced idle state current ne => exact proceed_spec c n r occasion _
  | joined state under => exact .joins (.joined state under)
  | launched idle state current => exact .launches (.launched idle state current)

theorem begin_spec {c : Client} (h : c.desk.Sound) (n : Nat) (r : Http.Request) :
    Went c n r (c.begin n r) := by
  unfold begin
  split
  · split
    · split
      · exact ask_spec h n r .ahead _
      · exact send_spec c n r _ _
    · exact send_spec c n r _ _
  · exact send_spec c n r _ _

theorem Went.moved {c c' : Client} {n : Nat} {r : Http.Request} (h : Went c n r c') :
    SingleFlight.Moved c.desk c'.desk := by
  cases h with
  | sends authorized => exact .same
  | unsendable authorized => rw [surface_desk]; exact .same
  | joins asked => exact .asked asked
  | launches asked => exact .asked asked
  | expelled => rw [expel_desk]; exact .signedOut

/-! ### A reply arrives -/

/-- What becomes of a client when task `n`, which is `t` and whose request is
`r`, gets a reply. -/
inductive Received (c : Client) (n : Nat) (t : Task) (r : Http.Request) : Client → Prop where
  /-- It has got its response. -/
  | completes {response : Http.Response} : Received c n t r (c.complete n t.purpose response)
  /-- It was refused without having shown credentials. -/
  | rejected (kind : r.kind = .regular) (stage : t.stage = .sent none) :
      Received c n t r (c.rejectAnonymous n)
  /-- It was refused, and wants newer credentials. -/
  | goesOn {used : Snapshot} {c' : Client} (kind : r.kind = .regular)
      (stage : t.stage = .sent (some used)) (went : Went c n r c') : Received c n t r c'
  /-- It was refused, and nothing can help. -/
  | expelled {e : CallError} (hopeless : r.kind ≠ .regular ∨ t.stage = .resent) :
      Received c n t r (c.expel n e)
  /-- It failed in some way that says nothing about the session. -/
  | surfaced {e : CallError} (other : e.isSessionExpired = false) :
      Received c n t r (c.surface n e)
  | crashed : Received c n t r (c.finish n .crashed)
  /-- It was not waiting for a reply. -/
  | ignored : Received c n t r c

theorem isSessionExpired_ofResponse (r : Http.Response) :
    (CallError.ofResponse r).isSessionExpired = false := by
  unfold CallError.ofResponse CallError.ofStatus
  split
  · rfl
  · split <;> rfl

theorem refuse_spec {c : Client} (h : c.desk.Sound) {n : Nat} {t : Task} {r : Http.Request}
    {used : Option Snapshot} (hstage : t.stage = .sent used) :
    Received c n t r (c.refuse n r used) := by
  unfold refuse
  cases hkind : r.kind with
  | refresh => exact .expelled (Or.inl (by rw [hkind]; nofun))
  | signIn => exact .expelled (Or.inl (by rw [hkind]; nofun))
  | regular =>
    cases used with
    | none => exact .rejected hkind hstage
    | some snapshot => exact .goesOn hkind hstage (ask_spec h n r .refused _)

/-- A reply that is no success is a failure that says nothing about the session,
or the end of the task. -/
theorem result_error {reply : Reply} {o : Client.Outcome} (h : reply.result = .error o) :
    o = .crashed ∨ ∃ e, o = .failed e ∧ e.isSessionExpired = false := by
  cases reply with
  | crash =>
    cases h
    exact Or.inl rfl
  | fault f =>
    cases h
    exact Or.inr ⟨_, rfl, rfl⟩
  | response response =>
    simp only [Reply.result] at h
    split at h
    · cases h
    · cases h
      exact Or.inr ⟨_, rfl, isSessionExpired_ofResponse response⟩

theorem receive_spec {c : Client} (h : c.desk.Sound) (n : Nat) (t : Task) (r : Http.Request)
    (reply : Reply) : Received c n t r (c.receive n t r reply) := by
  cases hresult : reply.result with
  | ok response =>
    cases hstage : t.stage with
    | sent used => simp only [receive, hresult, hstage]; exact .completes
    | resent => simp only [receive, hresult, hstage]; exact .completes
    | _ => simp only [receive, hresult, hstage]; exact .ignored
  | error o =>
    rcases result_error hresult with rfl | ⟨e, rfl, he⟩
    · simp only [receive, hresult]
      exact .crashed
    · cases e with
      | authorizationExpired =>
        cases hstage : t.stage with
        | sent used => simp only [receive, hresult, hstage]; exact refuse_spec h hstage
        | resent => simp only [receive, hresult, hstage]; exact .expelled (Or.inr hstage)
        | _ => simp only [receive, hresult, hstage]; exact .surfaced he
      | _ => simp only [receive, hresult]; exact .surfaced he

/-! ### One step -/

/-- `d` is `c` but for what is enabled and what replies are waited for. -/
structure Like (c d : Client) : Prop where
  desk : d.desk = c.desk
  tasks : d.tasks = c.tasks
  settled : d.settled = c.settled

theorem Like.refl (c : Client) : Like c c :=
  ⟨rfl, rfl, rfl⟩

/-- What becomes of a client in one event. -/
inductive Stepped (c : Client) : Client → Prop where
  /-- Nothing that the session or an ended task would notice. -/
  | quiet {c' : Client} (desk : c'.desk = c.desk) (settled : c'.settled = c.settled) : Stepped c c'
  /-- A task ends, since it has no request to send. -/
  | unbuildable {d : Client} {n : Nat} {e : Http.BuildError} (like : Like c d) :
      Stepped c (d.finish n (.unbuildable e))
  /-- A task begins, or has waited long enough. -/
  | goesOn {d c' : Client} {n : Nat} {t : Task} {r : Http.Request} (like : Like c d)
      (task : c.tasks[n]? = some t) (request : t.request = .ok r)
      (stage : ∀ used, t.stage ≠ .sent used) (went : Went d n r c') : Stepped c c'
  /-- A reply arrives for a task. -/
  | receives {d c' : Client} {n : Nat} {t : Task} {r : Http.Request} (like : Like c d)
      (task : c.tasks[n]? = some t) (request : t.request = .ok r)
      (received : Received d n t r c') : Stepped c c'
  /-- A flight ends. -/
  | lands {d : Client} {g : Generation} {result : Except CallError Credentials}
      (like : Like c d) : Stepped c (d.settleFlight g result)
  | signsOut : Stepped c c.signOut
  | stores (store : Store) : Stepped c (c.setSession { c.session with store })

/-- Whatever can go on is a task with a request. -/
theorem task?_eq_some {c : Client} {n : Nat} {t : Task} {r : Http.Request}
    (h : c.task? n = some (t, r)) : c.tasks[n]? = some t ∧ t.request = .ok r := by
  unfold task? at h
  split at h
  · split at h
    · cases h
    · cases h
      exact ⟨‹_›, ‹_›⟩
    · cases h
  · cases h

theorem perform_spec {c d : Client} (like : Like c d) (h : d.desk.Sound) (s : Step) :
    Stepped c (d.perform s) := by
  cases s with
  | start n =>
    simp only [perform]
    split
    · rename_i purpose r htask
      exact .goesOn like (like.tasks ▸ htask) rfl (fun _ heq => by cases heq) (begin_spec h n r)
    · exact .unbuildable like
    · exact .quiet like.desk like.settled
  | launch g current =>
    simp only [perform]
    split
    · exact .quiet like.desk like.settled
    · exact .lands like
  | answer id reply =>
    -- from here on nobody waits for this reply any more
    have like' : Like c { d with awaiting := d.awaiting.filter (·.1 != id) } :=
      ⟨like.desk, like.tasks, like.settled⟩
    simp only [perform]
    split
    · exact .lands like'
    · split
      · rename_i n _ _ t r htask
        obtain ⟨ht, hr⟩ := task?_eq_some htask
        have h' : ({ d with awaiting := d.awaiting.filter (·.1 != id) } : Client).desk.Sound := h
        exact .receives like' (like.tasks ▸ ht) hr (receive_spec h' n t r reply)
      · exact .quiet like.desk like.settled
    · exact .quiet like.desk like.settled
  | wake n outcome =>
    simp only [perform]
    split
    · rename_i occasion refused superseded r htask
      obtain ⟨ht, hr⟩ := task?_eq_some htask
      refine .goesOn like (like.tasks ▸ ht) hr (fun _ heq => by cases heq) ?_
      split
      · exact ask_spec h n r occasion refused
      · exact proceed_spec d n r occasion outcome
    · exact .quiet like.desk like.settled

/-- **Every event does one of these things.** -/
theorem step_spec {c : Client} (h : c.desk.Sound) (e : Event) : Stepped c (c.step e) := by
  cases e with
  | spawn request => exact .quiet rfl rfl
  | signIn email password => exact .quiet rfl rfl
  | signOut => exact .signsOut
  | abort n => exact .quiet rfl rfl
  | go place =>
    simp only [step]
    split
    · -- the step that is performed now is not to be performed again
      have like : Like c { c with ready := c.ready.eraseIdx place } := ⟨rfl, rfl, rfl⟩
      exact perform_spec like h _
    · exact .quiet rfl rfl
  | reply id reply => exact perform_spec (.refl c) h (.answer id reply)
  | clock now => exact .quiet rfl rfl
  | store store => exact .stores store

/-! ### Every step keeps a client sound -/

theorem rejectAnonymous_session (c : Client) (n : Nat) :
    (c.rejectAnonymous n).session =
      if c.session.isLoggedIn then c.session else c.session.claimPrompt.2 := by
  unfold rejectAnonymous
  split
  · rfl
  · show (c.promptSignIn.finish n _).desk.session = _
    rw [finish_desk, promptSignIn_desk]

theorem rejectAnonymous_moved (c : Client) (n : Nat) :
    SingleFlight.Moved c.desk (c.rejectAnonymous n).desk := by
  unfold rejectAnonymous
  split
  · exact .same
  · rw [finish_desk, promptSignIn_desk]
    exact .prompted

theorem complete_moved (c : Client) (n : Nat) (purpose : Purpose) (response : Http.Response) :
    SingleFlight.Moved c.desk (c.complete n purpose response).desk := by
  unfold complete
  cases purpose with
  | exchange => exact .same
  | signIn =>
    cases Credentials.issuedBy response c.options.refreshCookieName with
    | error e => exact .same
    | ok credentials => exact .signedIn credentials

theorem Received.moved {c c' : Client} {n : Nat} {t : Task} {r : Http.Request}
    (h : Received c n t r c') : SingleFlight.Moved c.desk c'.desk := by
  cases h with
  | completes => exact complete_moved c n _ _
  | rejected kind stage => exact rejectAnonymous_moved c n
  | goesOn kind stage went => exact went.moved
  | expelled hopeless => rw [expel_desk]; exact .signedOut
  | surfaced other => rw [surface_desk]; exact .same
  | crashed => exact .same
  | ignored => exact .same

theorem Stepped.moved {c c' : Client} (hs : c.desk.Sound) (h : Stepped c c') :
    SingleFlight.Moved c.desk c'.desk := by
  cases h with
  | quiet desk settled => rw [desk]; exact .same
  | unbuildable like => rw [finish_desk, like.desk]; exact .same
  | goesOn like task request stage went => rw [← like.desk]; exact went.moved
  | receives like task request received => rw [← like.desk]; exact received.moved
  | lands like =>
    rw [settleFlight_desk, like.desk]
    exact SingleFlight.settle_moved hs _ _
  | signsOut => rw [signOut_desk]; exact .signedOut
  | stores store => exact .stored store

/-- **Run.**  The session and the flight of a client fit together at all times. -/
theorem sound_after {c : Client} (h : c.desk.Sound) (es : List Event) :
    (c.after es).desk.Sound := by
  induction es generalizing c with
  | nil => exact h
  | cons e es ih => exact ih (((step_spec h e).moved h).sound h)

theorem sound_new (options : Options) (store : Store) (now : Time.Instant) :
    (Client.new options store now).desk.Sound :=
  .restore store

/-! ### Events of a run -/

theorem after_concat (c : Client) (es : List Event) (e : Event) :
    c.after (es ++ [e]) = (c.after es).step e :=
  List.foldl_append

theorem after_append (c : Client) (es es' : List Event) :
    c.after (es ++ es') = (c.after es).after es' :=
  List.foldl_append

/-- In a run from `c₀` there is an event such as this. -/
def During (c₀ : Client) (es : List Event) (P : Client → Event → Prop) : Prop :=
  ∃ past e later, es = past ++ e :: later ∧ P (c₀.after past) e

namespace During

variable {c₀ : Client} {es : List Event} {P : Client → Event → Prop}

theorem concat (h : During c₀ es P) (e : Event) : During c₀ (es ++ [e]) P := by
  obtain ⟨past, e', later, rfl, hP⟩ := h
  exact ⟨past, e', later ++ [e], by simp, hP⟩

theorem last {e : Event} (h : P (c₀.after es) e) : During c₀ (es ++ [e]) P :=
  ⟨es, e, [], rfl, h⟩

theorem nil : ¬ During c₀ [] P := by
  rintro ⟨past, e, later, heq, -⟩
  simp at heq

theorem cons_iff {e : Event} : During c₀ (e :: es) P ↔ P c₀ e ∨ During (c₀.step e) es P := by
  constructor
  · rintro ⟨past, e', later, heq, hP⟩
    rcases List.cons_eq_append_iff.mp heq with ⟨rfl, hlater⟩ | ⟨past', rfl, rfl⟩
    · cases hlater
      exact Or.inl hP
    · exact Or.inr ⟨past', e', later, rfl, hP⟩
  · rintro (hP | ⟨past, e', later, rfl, hP⟩)
    · exact ⟨[], e, es, rfl, hP⟩
    · exact ⟨e :: past, e', later, rfl, hP⟩

end During

end Client

end SessionKeeper
