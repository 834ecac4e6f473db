import Mathlib.Data.List.Induction
import SessionKeeper.Proofs.Client.Ledger

/-! # Why a request is sent twice

A task that waits for credentials remembers the generation that was refused, but
not how it came to wait.  The run tells: it is kept here for every task (`Told`),
event by event.

* Credentials that a task has sent were those of the session at that time.
* A task that wants others was answered 401 before.
* What it has sent a second time is the same request with credentials of which it
  heard when it had asked for newer ones than the refused ones.

Mathlib gives the induction over a run from its end. -/

namespace SessionKeeper

namespace Client

/-! ### Turns of a task -/

/-- Task `n` sends its first request, with credentials that are those of the
session. -/
structure Shows (n : Nat) (used : Snapshot) (first : Http.Request) (c : Client) (e : Event) :
    Prop where
  current : c.session.current = some used
  before : c.sentBy (.task n) = []
  after : (c.step e).sentBy (.task n) = [first]

/-- The first request of task `n` is answered 401, and nothing has been sent since. -/
structure Refuses (n : Nat) (first : Http.Request) (c : Client) (e : Event) : Prop where
  before : c.sentBy (.task n) = [first]
  reply : ∃ id response, e = .reply id (.response response) ∧ response.status = 401 ∧
    c.awaiting.lookup id = some (.task n) ∧ c.sent[id]? = some ⟨.task n, first⟩

/-- Task `n` hears of credentials that are newer than those of generation `g`, which
were refused, and sends its second request. -/
structure Renews (n : Nat) (first second : Http.Request) (g : Generation) (fresh : Credentials)
    (c : Client) (e : Event) : Prop where
  before : c.sentBy (.task n) = [first]
  after : (c.step e).sentBy (.task n) = [first, second]
  hears : Hears c n e .refused g (.ok fresh)

/-! ### What a run tells about a task -/

/-- In a run task `n`, whose request is `r`, has sent it with the credentials of the
session. -/
structure HasShown (c₀ : Client) (es : List Event) (n : Nat) (r : Http.Request) (used : Snapshot)
    (first : Http.Request) : Prop where
  authorized : authorize r (some used.credentials) = .ok first
  shown : During c₀ es (Shows n used first)

/-- In a run task `n` has sent its request `r` with the credentials of the session,
was answered 401, heard of newer ones and sent the request with those. -/
structure HasRenewed (c₀ : Client) (es : List Event) (n : Nat) (r : Http.Request)
    (first second : Http.Request) (used : Snapshot) (fresh : Credentials) : Prop where
  kind : r.kind = .regular
  shown : HasShown c₀ es n r used first
  refused : During c₀ es (Refuses n first)
  authorized : authorize r (some fresh) = .ok second
  renewed : During c₀ es (Renews n first second used.generation fresh)

/-- What a run tells about task `n`, which is `t` by now and has sent these
requests. -/
structure Told (c₀ : Client) (es : List Event) (n : Nat) (t : Task) (sent : List Http.Request) :
    Prop where
  shown : ∀ r used, t.request = .ok r → t.stage = .sent (some used) →
    ∃ first, sent = [first] ∧ HasShown c₀ es n r used first
  refused : ∀ r g superseded, t.request = .ok r → t.stage = .waiting .refused g superseded →
    ∃ used first, used.generation = g ∧ sent = [first] ∧ HasShown c₀ es n r used first ∧
      During c₀ es (Refuses n first)
  renewed : ∀ r first second, t.request = .ok r → sent = [first, second] →
    ∃ used fresh, HasRenewed c₀ es n r first second used fresh

section told

variable {c₀ : Client} {es : List Event} {n : Nat} {t : Task} {r : Http.Request}

theorem HasShown.concat {used : Snapshot} {first : Http.Request}
    (h : HasShown c₀ es n r used first) (e : Event) : HasShown c₀ (es ++ [e]) n r used first :=
  ⟨h.authorized, h.shown.concat e⟩

theorem HasRenewed.concat {first second : Http.Request} {used : Snapshot} {fresh : Credentials}
    (h : HasRenewed c₀ es n r first second used fresh) (e : Event) :
    HasRenewed c₀ (es ++ [e]) n r first second used fresh :=
  ⟨h.kind, h.shown.concat e, h.refused.concat e, h.authorized, h.renewed.concat e⟩

theorem Told.concat {sent : List Http.Request} (h : Told c₀ es n t sent) (e : Event) :
    Told c₀ (es ++ [e]) n t sent where
  shown r used hr hstage := by
    obtain ⟨first, hsent, hshown⟩ := h.shown r used hr hstage
    exact ⟨first, hsent, hshown.concat e⟩
  refused r g superseded hr hstage := by
    obtain ⟨used, first, hg, hsent, hshown, hrefused⟩ := h.refused r g superseded hr hstage
    exact ⟨used, first, hg, hsent, hshown.concat e, hrefused.concat e⟩
  renewed r first second hr hsent := by
    obtain ⟨used, fresh, hrenewed⟩ := h.renewed r first second hr hsent
    exact ⟨used, fresh, hrenewed.concat e⟩

/-- A task that comes to another stage without sending anything has no more to tell
than why it waits, if it does. -/
theorem Told.come {sent : List Http.Request} {stage : Stage} (h : Told c₀ es n t sent)
    (hsent : ∀ used, stage ≠ .sent used)
    (hrefused : ∀ r g superseded, t.request = .ok r → stage = .waiting .refused g superseded →
      ∃ used first, used.generation = g ∧ sent = [first] ∧ HasShown c₀ es n r used first ∧
        During c₀ es (Refuses n first)) : Told c₀ es n { t with stage } sent where
  shown _ _ _ hstage := absurd hstage (hsent _)
  refused r g superseded hr hstage := hrefused r g superseded hr hstage
  renewed r first second hr hsent := h.renewed r first second hr hsent

/-- Whoever asks after a refusal has shown credentials and was answered 401, at the
latest now. -/
theorem Asks.told {e : Event} {g : Generation} {sent : List Http.Request}
    (h : Asks (c₀.after es) n e .refused g) (hc : (c₀.after es).Ledger)
    (htask : (c₀.after es).tasks[n]? = some t) (hr : t.request = .ok r)
    (hsent : (c₀.after es).sentBy (.task n) = sent) (htold : Told c₀ es n t sent) :
    ∃ used first, used.generation = g ∧ sent = [first] ∧ HasShown c₀ (es ++ [e]) n r used first ∧
      During c₀ (es ++ [e]) (Refuses n first) := by
  cases h with
  | @refused id t' r' used response awaited task request stage kind status =>
    rw [htask] at task
    cases task
    obtain ⟨first, hfirst, hshown⟩ := htold.shown r used hr stage
    refine ⟨used, first, rfl, hfirst, hshown.concat _, .last ⟨hsent.trans hfirst, id, response, rfl,
      status, awaited, ?_⟩⟩
    -- the reply is to the one request that was sent
    obtain ⟨r', hr'⟩ := hc.posted.sent _ (mem_of_lookup awaited)
    have hmem : r' ∈ (c₀.after es).sentBy (.task n) :=
      List.mem_map.mpr ⟨_, List.mem_filter.mpr ⟨List.mem_of_getElem? hr', by simp⟩, rfl⟩
    rw [hsent, hfirst, List.mem_singleton] at hmem
    rw [hr', hmem]
  | again step task stage =>
    rw [htask] at task
    cases task
    obtain ⟨used, first, hg, hfirst, hshown, hrefused⟩ := htold.refused r g true hr stage
    exact ⟨used, first, hg, hfirst, hshown.concat _, hrefused.concat _⟩

theorem Hears.told {e : Event} {g : Generation} {outcome : SingleFlight.Outcome}
    {sent : List Http.Request} (h : Hears (c₀.after es) n e .refused g outcome)
    (hc : (c₀.after es).Ledger) (htask : (c₀.after es).tasks[n]? = some t) (hr : t.request = .ok r)
    (hsent : (c₀.after es).sentBy (.task n) = sent) (htold : Told c₀ es n t sent) :
    ∃ used first, used.generation = g ∧ sent = [first] ∧ HasShown c₀ (es ++ [e]) n r used first ∧
      During c₀ (es ++ [e]) (Refuses n first) := by
  cases h with
  | atOnce asks answered => exact asks.told hc htask hr hsent htold
  | landed event step task stage =>
    rw [htask] at task
    cases task
    obtain ⟨used, first, hg, hfirst, hshown, hrefused⟩ := htold.refused r g false hr stage
    exact ⟨used, first, hg, hfirst, hshown.concat _, hrefused.concat _⟩

/-- A task that asks and has to wait can tell why. -/
theorem Told.waiting {e : Event} {occasion : Occasion} {g : Generation}
    {sent : List Http.Request} (h : Told c₀ es n t sent) (asks : Asks (c₀.after es) n e occasion g)
    (hc : (c₀.after es).Ledger) (htask : (c₀.after es).tasks[n]? = some t)
    (hsent : (c₀.after es).sentBy (.task n) = sent) (superseded : Bool) :
    Told c₀ (es ++ [e]) n { t with stage := .waiting occasion g superseded } sent := by
  refine (h.concat e).come (fun _ => nofun) fun r g' superseded' hr heq => ?_
  cases heq
  exact asks.told hc htask hr hsent h

/-! ### Runs -/

/-- **Step.**  What a run tells about a task that acts. -/
theorem Acted.told {e : Event} {c' : Client} (h : Acted (c₀.after es) e n t c')
    (hstep : (c₀.after es).step e = c') (hc : (c₀.after es).Ledger)
    (htask : (c₀.after es).tasks[n]? = some t)
    (htold : Told c₀ es n t ((c₀.after es).file n).sent) :
    ∃ t', (c'.file n).task = some t' ∧ Told c₀ (es ++ [e]) n t' (c'.file n).sent := by
  have hkept := hc.kept n t htask
  have hcome : ∀ stage,
      ((((c₀.after es).file n).hear e.reply?).come stage).task = some { t with stage } :=
    fun stage => by
      show Option.map _ (c₀.after es).tasks[n]? = _
      rw [htask]
      rfl
  cases h with
  | @sendsFirst r signed used request due shown authorized =>
    have hnil : (c₀.after es).sentBy (.task n) = [] := ((hkept.showed r request).of_due due).1
    obtain ⟨htask', hsent, -⟩ := file_sends _ e htask (.sent used) signed
    rw [hnil, List.nil_append] at hsent
    refine ⟨_, htask', ?_⟩
    rw [hsent]
    refine ⟨fun r' snapshot hr' hstage => ?_, fun _ _ _ _ hstage => (by cases hstage),
      fun _ _ _ _ heq => (by cases heq)⟩
    cases (show t.request = .ok r' from hr').symm.trans request
    cases hstage
    refine ⟨signed, rfl, authorized, .last ⟨shown _ rfl, hnil, ?_⟩⟩
    rw [hstep]
    exact hsent
  | @sendsAgain r signed g fresh request hears authorized =>
    obtain ⟨used, first, rfl, hfirst, hshown, hrefused⟩ := hears.told hc htask request rfl htold
    obtain ⟨htask', hsent, -⟩ := file_sends _ e htask .resent signed
    rw [hfirst] at hsent
    refine ⟨_, htask', ?_⟩
    rw [hsent]
    refine ⟨fun _ _ _ hstage => (by cases hstage), fun _ _ _ _ hstage => (by cases hstage),
      fun r' first' second hr' heq => ?_⟩
    cases (show t.request = .ok r' from hr').symm.trans request
    cases heq
    refine ⟨used, fresh, ?_, hshown, hrefused, authorized, .last ⟨hfirst, ?_, hears⟩⟩
    · exact (hears.showed htask hr' (hkept.showed _ hr')).kind_of_waiting
    · rw [hstep]
      exact hsent
  | joins asks under =>
    rw [file_setStage, if_pos rfl, file_withDesk, file_noting]
    exact ⟨_, hcome _, htold.waiting asks hc htask rfl _⟩
  | launches asks idle state now =>
    rw [file_enable, file_setStage, if_pos rfl, file_withDesk, file_noting]
    exact ⟨_, hcome _, htold.waiting asks hc htask rfl _⟩
  | ends ended =>
    rw [ended.file, if_pos rfl, file_noting]
    exact ⟨_, hcome _, (htold.concat e).come (fun _ => nofun) nofun⟩

/-- **Run.**  What a run tells about every task. -/
theorem told_after (options : Options) (store : Store) (now : Time.Instant) (es : List Event)
    (n : Nat) (t : Task)
    (ht : ((Client.new options store now).after es).tasks[n]? = some t) :
    Told (Client.new options store now) es n t
      (((Client.new options store now).after es).sentBy (.task n)) := by
  induction es using List.reverseRecOn generalizing t with
  | nil => cases ht
  | append_singleton es e ih =>
    have hc := (Ledger.new options store now).after es
    rw [after_concat] at ht ⊢
    show Told _ _ _ _ ((((Client.new options store now).after es).step e).file n).sent
    cases fate_spec hc e n with
    | same hfile =>
      rw [hfile]
      exact (ih t ((congrArg File.task hfile).symm.trans ht)).concat e
    | spawned stage vacant hfile =>
      rw [hfile]
      cases (congrArg File.task hfile).symm.trans ht
      exact ⟨fun _ _ _ hstage => (by rw [stage] at hstage; cases hstage),
        fun _ _ _ _ hstage => (by rw [stage] at hstage; cases hstage),
        fun _ _ _ _ heq => (by cases heq)⟩
    | aborted hfile =>
      rw [hfile]
      obtain ⟨t₀, ht₀, rfl⟩ := Option.map_eq_some_iff.mp ((congrArg File.task hfile).symm.trans ht)
      exact ((ih t₀ ht₀).concat e).come (fun _ => nofun) nofun
    | acted task concerns acted =>
      obtain ⟨t', ht', htold⟩ := acted.told rfl hc task (ih _ task)
      cases ht'.symm.trans ht
      exact htold

end told

end Client

end SessionKeeper
