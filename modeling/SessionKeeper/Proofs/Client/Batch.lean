import SessionKeeper.Proofs.Client.Queue
import SessionKeeper.Proofs.Client.Endings

/-! # Requests that are refused together

Several tasks have sent regular requests with the same credentials, and the service
refuses them all.  The first task that hears of it launches a flight.  Those that hear
of it while the flight is under way join it, and those that hear of it later find that
the session has changed.  No two runs need look alike: the refusals, the reply to the
flight and the replies to what is sent again come in any order.

* `Batch` is what the requests have in common, and what comes back for them.
  `Delivers` says what may happen meanwhile: these replies, and the steps that they
  enable.  Nobody signs in or out.  Whether an event is of this kind can be computed.
* The session passes through three phases, with the landing of the flight as the one
  turn (`Phase`).  Each task of the batch goes its way in five legs at most
  (`Leg`), and the last of them need the flight to have landed.
* `Course` holds this together.  That it is kept is for the next module; here is what a
  delivery does to a client, and what of a course does not depend on it.

Core Lean 4 only; no Mathlib. -/

namespace SessionKeeper

open SingleFlight (Flight Asked Landed)

namespace Client

/-! ### Batches -/

/-- Regular requests that are refused together. -/
structure Batch where
  /-- The credentials with which they are sent. -/
  used : Snapshot
  /-- The tasks that send them. -/
  members : List Nat
  /-- What comes back for the request of the flight that replaces the credentials. -/
  renewal : Reply
  /-- What comes back for the request of a task when it is sent again. -/
  page : Nat → Http.Response

namespace Batch

/-- What the flight comes to that replaces the credentials. -/
def result (b : Batch) (c : Client) : Except CallError Credentials :=
  match c.options.endpoint.request b.used.credentials with
  | .ok _ => c.flightResult b.renewal
  | .error e => .error e

/-- What those hear who wait for that flight. -/
def outcome (b : Batch) (result : Except CallError Credentials) : SingleFlight.Outcome :=
  match result with
  | .ok new => .ok (new.keepRefreshToken (some b.used.credentials))
  | .error e => .error (.ofError e)

end Batch

/-- The requests of a batch are sent, or about to be sent, with the credentials of the
session; none of them was answered.  No flight is about to begin: it would belong to a
former session, and send a request of its own. -/
structure Dispatched (b : Batch) (c : Client) : Prop where
  state : c.session.state = .loggedIn b.used.generation
  current : c.session.current = some b.used
  boarding : c.boarding = []
  task : ∀ n ∈ b.members, ∃ r stage, c.tasks[n]? = some ⟨.exchange, .ok r, stage⟩ ∧
    r.kind = .regular ∧ (stage = .starting ∨ stage = .sent (some b.used))

/-- The credentials of a batch can stand in a request, and so can those that replace
them; nothing is replaced ahead of time, and nobody has claimed the sign-in prompt. -/
structure Batch.Fit (b : Batch) (c : Client) : Prop where
  window : c.options.window? = none
  authorization : Http.isFieldValue b.used.credentials.authorization = true
  fresh : ∀ new, b.result c = .ok new → Http.isFieldValue new.authorization = true
  unclaimed : c.session.prompted = false

/-- An event is one of those that may happen while a batch is refused. -/
inductive Delivers (b : Batch) (c : Client) : Event → Prop where
  /-- A task of the batch begins, with the credentials of the batch. -/
  | begins {n place : Nat} (member : n ∈ b.members) (step : c.ready[place]? = some (.start n))
      (current : c.session.current = some b.used) : Delivers b c (.go place)
  /-- A flight begins. -/
  | departs {place : Nat} {g : Generation} {current : Credentials}
      (step : c.ready[place]? = some (.launch g current)) : Delivers b c (.go place)
  /-- A task of the batch is woken. -/
  | wakes {n place : Nat} {outcome : SingleFlight.Outcome} (member : n ∈ b.members)
      (step : c.ready[place]? = some (.wake n outcome)) : Delivers b c (.go place)
  /-- What a task of the batch has sent first is refused. -/
  | denies {n id : Nat} {t : Task} {used : Option Snapshot} {response : Http.Response}
      (member : n ∈ b.members) (awaited : c.awaiting.lookup id = some (.task n))
      (task : c.tasks[n]? = some t) (stage : t.stage = .sent used)
      (status : response.status = 401) :
      Delivers b c (.reply id (.response response))
  /-- What a task of the batch has sent again succeeds. -/
  | answers {n id : Nat} {t : Task} (member : n ∈ b.members)
      (awaited : c.awaiting.lookup id = some (.task n)) (task : c.tasks[n]? = some t)
      (stage : t.stage = .resent) (success : (b.page n).isSuccess = true) :
      Delivers b c (.reply id (.response (b.page n)))
  /-- The reply to the flight arrives that replaces the credentials of the batch. -/
  | renews {id : Nat} (awaited : c.awaiting.lookup id = some (.flight b.used.generation)) :
      Delivers b c (.reply id b.renewal)
  /-- A reply to a flight arrives that belongs to a former session. -/
  | overtaken {id : Nat} {g : Generation} {reply : Reply}
      (awaited : c.awaiting.lookup id = some (.flight g)) (other : g ≠ b.used.generation) :
      Delivers b c (.reply id reply)
  | clock (now : Time.Instant) : Delivers b c (.clock now)

/-- All events of a run are of this kind. -/
inductive Along (b : Batch) : Client → List Event → Prop where
  | nil (c : Client) : Along b c []
  | cons {c : Client} {e : Event} {es : List Event} (first : Delivers b c e)
      (rest : Along b (c.step e) es) : Along b c (e :: es)

/-- Nothing is left to be delivered: no task of the batch is about to begin or to be
woken, none waits for a reply, and no flight is about to begin or waits for one. -/
structure Finished (b : Batch) (c : Client) : Prop where
  starts : ∀ n ∈ b.members, .start n ∉ c.ready
  wakes : ∀ n ∈ b.members, n ∉ c.woken
  replies : ∀ n ∈ b.members, c.awaitedBy (.task n) = []
  calls : c.calls = []

/-! ### Deliveries can be checked -/

section decidable

variable {b : Batch} {c : Client}

/-- Whether a reply is the one that a task of the batch gets at a stage. -/
def Batch.answers (b : Batch) (n : Nat) (stage : Stage) (reply : Reply) : Bool :=
  match stage, reply with
  | .sent _, .response response => response.status = 401
  | .resent, reply => reply = .response (b.page n) && (b.page n).isSuccess
  | _, _ => false

/-- Whether an event may happen while a batch is refused. -/
def Batch.delivers (b : Batch) (c : Client) : Event → Bool
  | .go place =>
    match c.ready[place]? with
    | some (.start n) => n ∈ b.members && c.session.current = some b.used
    | some (.launch _ _) => true
    | some (.wake n _) => n ∈ b.members
    | _ => false
  | .reply id reply =>
    match c.awaiting.lookup id with
    | some (.task n) =>
      n ∈ b.members && c.tasks[n]?.any fun t => b.answers n t.stage reply
    | some (.flight g) => g ≠ b.used.generation || reply = b.renewal
    | none => false
  | .clock _ => true
  | _ => false

theorem delivers_of {e : Event} (h : Delivers b c e) : b.delivers c e = true := by
  cases h with
  | begins member step current => simp [Batch.delivers, step, member, current]
  | departs step => simp [Batch.delivers, step]
  | wakes member step => simp [Batch.delivers, step, member]
  | denies member awaited task stage status =>
    simp [Batch.delivers, awaited, member, task, stage, Batch.answers, status]
  | answers member awaited task stage success =>
    simp [Batch.delivers, awaited, member, task, stage, Batch.answers, success]
  | renews awaited => simp [Batch.delivers, awaited]
  | overtaken awaited other => simp [Batch.delivers, awaited, other]
  | clock now => rfl

theorem delivers_iff {e : Event} : b.delivers c e = true ↔ Delivers b c e := by
  refine ⟨fun h => ?_, delivers_of⟩
  unfold Batch.delivers at h
  split at h
  · split at h
    · rename_i n hstep
      simp only [Bool.and_eq_true, decide_eq_true_eq] at h
      exact .begins h.1 hstep h.2
    · rename_i hstep
      exact .departs hstep
    · rename_i hstep
      exact .wakes (decide_eq_true_eq.mp h) hstep
    · cases h
  · split at h
    · rename_i n hawaited
      simp only [Bool.and_eq_true, decide_eq_true_eq] at h
      obtain ⟨member, hany⟩ := h
      obtain ⟨t, htask, hanswers⟩ := (Option.any_eq_true _ _).mp hany
      unfold Batch.answers at hanswers
      split at hanswers
      · rename_i hstage
        exact .denies member hawaited htask hstage (decide_eq_true_eq.mp hanswers)
      · rename_i hstage
        simp only [Bool.and_eq_true, decide_eq_true_eq] at hanswers
        rw [hanswers.1]
        exact .answers member hawaited htask hstage hanswers.2
      · cases hanswers
    · rename_i g hawaited
      by_cases hg : g = b.used.generation
      · subst hg
        simp only [ne_eq, not_true, decide_false, Bool.false_or, decide_eq_true_eq] at h
        rw [h]
        exact .renews hawaited
      · exact .overtaken hawaited hg
    · cases h
  · exact .clock _
  · cases h

instance (e : Event) : Decidable (Delivers b c e) :=
  decidable_of_iff _ delivers_iff

theorem along_cons_iff {e : Event} {es : List Event} :
    Delivers b c e ∧ Along b (c.step e) es ↔ Along b c (e :: es) := by
  constructor
  · rintro ⟨first, rest⟩
    exact .cons first rest
  · rintro (_ | ⟨first, rest⟩)
    exact ⟨first, rest⟩

instance Along.decidable : (c : Client) → (es : List Event) → Decidable (Along b c es)
  | c, [] => .isTrue (.nil c)
  | c, e :: es =>
    have := Along.decidable (c.step e) es
    decidable_of_iff _ along_cons_iff

end decidable

/-! ### The way of a task -/

/-- How far task `n` of a batch is, whose request is `r`: its stage, what it has sent
and its outcomes.  The flag tells whether the flight has landed. -/
inductive Leg (b : Batch) (result : Except CallError Credentials) (n : Nat) (r : Http.Request) :
    Bool → Stage → List Http.Request → List Client.Outcome → Prop where
  | starting {landed : Bool} : Leg b result n r landed .starting [] []
  | sent {landed : Bool} {first : Http.Request}
      (authorized : authorize r (some b.used.credentials) = .ok first) :
      Leg b result n r landed (.sent (some b.used)) [first] []
  | waiting {landed superseded : Bool} {first : Http.Request}
      (authorized : authorize r (some b.used.credentials) = .ok first) :
      Leg b result n r landed (.waiting .refused b.used.generation superseded) [first] []
  | resent {new : Credentials} {first second : Http.Request} (returned : result = .ok new)
      (authorized : authorize r (some b.used.credentials) = .ok first)
      (again : authorize r (some new) = .ok second) :
      Leg b result n r true .resent [first, second] []
  | answered {new : Credentials} {first second : Http.Request} (returned : result = .ok new)
      (authorized : authorize r (some b.used.credentials) = .ok first)
      (again : authorize r (some new) = .ok second) :
      Leg b result n r true .done [first, second] [.response (b.page n)]
  | failed {error e : CallError} {first : Http.Request} (returned : result = .error error)
      (authorized : authorize r (some b.used.credentials) = .ok first)
      (expired : e.isSessionExpired = true) : Leg b result n r true .done [first] [.failed e]

namespace Leg

variable {b : Batch} {result : Except CallError Credentials} {n : Nat} {r : Http.Request}
  {landed : Bool} {sent : List Http.Request} {outcomes : List Client.Outcome}

theorem of_starting (h : Leg b result n r landed .starting sent outcomes) :
    sent = [] ∧ outcomes = [] := by
  cases h
  exact ⟨rfl, rfl⟩

theorem of_sent {used : Option Snapshot} (h : Leg b result n r landed (.sent used) sent outcomes) :
    used = some b.used ∧ outcomes = [] ∧
      ∃ first, sent = [first] ∧ authorize r (some b.used.credentials) = .ok first := by
  cases h with
  | sent authorized => exact ⟨rfl, rfl, _, rfl, authorized⟩

theorem of_waiting {occasion : Occasion} {g : Generation} {superseded : Bool}
    (h : Leg b result n r landed (.waiting occasion g superseded) sent outcomes) :
    occasion = .refused ∧ g = b.used.generation ∧ outcomes = [] ∧
      ∃ first, sent = [first] ∧ authorize r (some b.used.credentials) = .ok first := by
  cases h with
  | waiting authorized => exact ⟨rfl, rfl, rfl, _, rfl, authorized⟩

/-- The reply to what was sent again is the outcome. -/
theorem answer (h : Leg b result n r landed .resent sent outcomes) :
    (∃ new, result = .ok new) ∧
      Leg b result n r landed .done sent (outcomes ++ [.response (b.page n)]) := by
  cases h with
  | resent returned authorized again => exact ⟨⟨_, returned⟩, .answered returned authorized again⟩

/-- Before the flight has landed nobody ends. -/
theorem outcomes_nil {stage : Stage} (h : Leg b result n r false stage sent outcomes) :
    outcomes = [] := by
  cases h <;> rfl

end Leg

/-- The file of task `n` shows it on its way. -/
inductive OnLeg (b : Batch) (result : Except CallError Credentials) (landed : Bool) (n : Nat)
    (f : File) : Prop where
  | mk {r : Http.Request} {stage : Stage} (task : f.task = some ⟨.exchange, .ok r, stage⟩)
      (kind : r.kind = .regular) (leg : Leg b result n r landed stage f.sent f.outcomes)

/-! ### The way of the session -/

/-- The session still has the credentials of the batch, and neither its store nor its
prompt was touched. -/
structure Untouched (b : Batch) (c₀ c : Client) : Prop where
  current : c.session.current = some b.used
  store : c.session.store = c₀.session.store
  prompted : c.session.prompted = c₀.session.prompted
  prompts : c.signInPrompts = c₀.signInPrompts

/-- How far the session has come since `c₀`, and whether the flight has landed that
replaces the credentials of the batch. -/
inductive Phase (b : Batch) (c₀ c : Client) : Bool → Prop where
  /-- That flight was not launched yet.  There may be one of a former session. -/
  | before (untouched : Untouched b c₀ c)
      (state : c.session.state = .loggedIn b.used.generation) (boarding : c.boarding = [])
      (departures : c.departures = c₀.departures) : Phase b c₀ c false
  /-- It is under way. -/
  | during {waiters : List Nat} (untouched : Untouched b c₀ c)
      (state : c.session.state = .refreshing b.used.generation)
      (flight : c.desk.flight = some ⟨b.used.generation, waiters⟩)
      (launching : ∀ g current, .launch g current ∈ c.ready → current = b.used.credentials)
      (departed : c.boarding ≠ [] ∧ c.departures = c₀.departures ∨
        c.boarding = [] ∧ c.departures = c₀.departures ++ [b.used.generation] ∧
          ∃ r, c₀.options.endpoint.request b.used.credentials = .ok r) : Phase b c₀ c false
  /-- It has brought new credentials. -/
  | renewed {new : Credentials} (returned : b.result c₀ = .ok new)
      (state : c.session.state = .loggedIn b.used.generation.next)
      (current : c.session.current =
        some ⟨b.used.generation.next, new.keepRefreshToken (some b.used.credentials)⟩)
      (flight : c.desk.flight = none)
      (departures : c.departures = c₀.departures ++ [b.used.generation])
      (prompts : c.signInPrompts = c₀.signInPrompts) : Phase b c₀ c true
  /-- It has failed, and the session is over. -/
  | lost {error : CallError} (returned : b.result c₀ = .error error)
      (state : c.session.state = .loggedOut) (flight : c.desk.flight = none)
      (departures : c.departures = c₀.departures ∨
        c.departures = c₀.departures ++ [b.used.generation])
      (store : ∀ store, c₀.session.store.clear = .ok store → c.session.store.text? = none)
      (prompts : c.session.prompted = false ∧ c.signInPrompts = c₀.signInPrompts ∨
        c.session.prompted = true ∧ c.signInPrompts = c₀.signInPrompts + 1) : Phase b c₀ c true

/-- Since `c₀` a batch has been on its way. -/
structure Course (b : Batch) (c₀ c : Client) (landed : Bool) : Prop where
  options : c.options = c₀.options
  notices : c.failureNotices = c₀.failureNotices
  phase : Phase b c₀ c landed
  legs : ∀ n ∈ b.members, OnLeg b (b.result c₀) landed n (c.file n)
  /-- Whoever has ended without a response has made the client ask for the sign-in. -/
  told : ∀ error, b.result c₀ = .error error → ∀ n ∈ b.members, c.outcomesOf n ≠ [] →
    c.session.prompted = true
  /-- Whoever is woken after that flight hears what it came to. -/
  wakes : ∀ n ∈ b.members, ∀ t outcome, c.tasks[n]? = some t →
    t.stage = .waiting .refused b.used.generation false → .wake n outcome ∈ c.ready →
    landed = true ∧ outcome = b.outcome (b.result c₀)

/-! ### What a delivery does -/

section deliveries

variable {c : Client} {n : Nat} {t : Task} {r first : Http.Request} {used : Snapshot}

/-- Where nothing is replaced ahead of time, a task sends its request at once, with the
credentials of the session. -/
theorem begin_of_current (hkind : r.kind = .regular) (hwindow : c.options.window? = none)
    (hcurrent : c.session.current = some used)
    (hauthorized : authorize r (some used.credentials) = .ok first) :
    c.begin n r = (c.setStage n (.sent (some used))).transmit (.task n) first := by
  have hdue : c.isDue used.credentials = false := by simp only [isDue, hwindow]
  rw [begin_of_signedIn hkind hcurrent, if_neg (Bool.eq_false_iff.mp hdue)]
  simp only [sendFirst, send, Option.map_some, hauthorized]

/-- A task whose credentials are refused asks for newer ones. -/
theorem receive_of_denied {response : Http.Response} (hkind : r.kind = .regular)
    (hstage : t.stage = .sent (some used)) (hstatus : response.status = 401) :
    c.receive n t r (.response response) = c.ask n r .refused used.generation := by
  rw [receive_of_refused hstage hstatus]
  simp only [refuse, hkind]

/-- A task that has sent its request again, and gets a success for it, returns it. -/
theorem receive_of_success {response : Http.Response} (hpurpose : t.purpose = .exchange)
    (hstage : t.stage = .resent) (hsuccess : response.isSuccess = true) :
    c.receive n t r (.response response) = c.finish n (.response response) := by
  have hawaits := Stage.awaitsReply_iff.mpr (Or.inr hstage)
  have hresult : (Reply.response response).result = .ok response := if_pos hsuccess
  rw [receive_of_ok hawaits hresult]
  simp only [complete, hpurpose]

end deliveries

/-! ### What stays on course -/

section frames

variable {b : Batch} {c₀ c c' : Client} {landed : Bool}

/-- Only the requests of the file count, and its stage and outcomes. -/
theorem OnLeg.hear {result : Except CallError Credentials} {n : Nat} {f : File}
    (h : OnLeg b result landed n f) (reply? : Option Nat) :
    OnLeg b result landed n (f.hear reply?) := by
  obtain ⟨task, kind, leg⟩ := h
  exact ⟨task, kind, leg⟩

/-- A leg that does not need the flight to have landed may be gone after that, too. -/
theorem OnLeg.land {result : Except CallError Credentials} {n : Nat} {f : File}
    (h : OnLeg b result false n f) : OnLeg b result true n f := by
  obtain ⟨task, kind, leg⟩ := h
  refine ⟨task, kind, ?_⟩
  generalize f.sent = sent at leg ⊢
  generalize f.outcomes = outcomes at leg ⊢
  cases leg with
  | starting => exact .starting
  | sent authorized => exact .sent authorized
  | waiting authorized => exact .waiting authorized

theorem Untouched.congr (h : Untouched b c₀ c) (hsession : c'.session = c.session)
    (hprompts : c'.signInPrompts = c.signInPrompts) : Untouched b c₀ c' where
  current := by rw [hsession]; exact h.current
  store := by rw [hsession]; exact h.store
  prompted := by rw [hsession]; exact h.prompted
  prompts := hprompts.trans h.prompts

/-- The phase is a matter of the session and its flight, of what flights have sent or
are about to send, and of the prompts. -/
theorem Phase.congr (h : Phase b c₀ c landed) (hdesk : c'.desk = c.desk)
    (hboarding : c'.boarding = c.boarding) (hdepartures : c'.departures = c.departures)
    (hready : ∀ g current, .launch g current ∈ c'.ready → .launch g current ∈ c.ready)
    (hprompts : c'.signInPrompts = c.signInPrompts) : Phase b c₀ c' landed := by
  have hsession : c'.session = c.session := congrArg SingleFlight.session hdesk
  cases h with
  | before untouched state boarding departures =>
    exact .before (untouched.congr hsession hprompts) (by rw [hsession]; exact state)
      (by rw [hboarding]; exact boarding) (by rw [hdepartures]; exact departures)
  | during untouched state flight launching departed =>
    exact .during (untouched.congr hsession hprompts) (by rw [hsession]; exact state)
      (by rw [hdesk]; exact flight)
      (fun g current hmem => launching g current (hready g current hmem))
      (by rw [hboarding, hdepartures]; exact departed)
  | renewed returned state current flight departures prompts =>
    exact .renewed returned (by rw [hsession]; exact state) (by rw [hsession]; exact current)
      (by rw [hdesk]; exact flight) (by rw [hdepartures]; exact departures)
      (by rw [hprompts]; exact prompts)
  | lost returned state flight departures store prompts =>
    exact .lost returned (by rw [hsession]; exact state) (by rw [hdesk]; exact flight)
      (by rw [hdepartures]; exact departures) (fun s hs => by rw [hsession]; exact store s hs)
      (by rw [hsession, hprompts]; exact prompts)

/-- To take note of an event that is no flight's business is nothing to the phase. -/
theorem Phase.noting (h : Phase b c₀ c landed) {e : Event} (hquiet : c.calling? e = none) :
    Phase b c₀ (c.noting e) landed :=
  h.congr (noting_desk c e) (boarding_noting hquiet) (departures_noting c e)
    (fun _ _ => noting_ready_subset c e _) (noting_signInPrompts c e)

/-- One task goes a leg further, and the others stay where they are. -/
theorem Course.of_one (h : Course b c₀ c landed) {e : Event} {n : Nat}
    (hoptions : c'.options = c.options) (hnotices : c'.failureNotices = c.failureNotices)
    (hphase : Phase b c₀ c' landed)
    (hothers : ∀ m, m ≠ n → c'.file m = (c.noting e).file m)
    (hself : OnLeg b (b.result c₀) landed n (c'.file n))
    (htold : ∀ error, b.result c₀ = .error error →
      c.session.prompted = true ∨ c'.outcomesOf n ≠ [] → c'.session.prompted = true)
    (hready : ∀ m outcome, .wake m outcome ∈ c'.ready → .wake m outcome ∈ c.ready)
    (hrests : ∀ t outcome, c'.tasks[n]? = some t →
      t.stage = .waiting .refused b.used.generation false → .wake n outcome ∉ c'.ready) :
    Course b c₀ c' landed := by
  have hfile : ∀ m, m ≠ n → c'.file m = (c.file m).hear e.reply? := fun m hm => by
    rw [hothers m hm, file_noting]
  refine ⟨hoptions.trans h.options, hnotices.trans h.notices, hphase, fun m hm => ?_,
    fun error herror m hm hended => ?_, fun m hm t outcome ht hstage hmem => ?_⟩
  · by_cases hn : m = n
    · rw [hn]
      exact hself
    · rw [hfile m hn]
      exact (h.legs m hm).hear _
  · refine htold error herror ?_
    by_cases hn : m = n
    · exact Or.inr (hn ▸ hended)
    · refine Or.inl (h.told error herror m hm ?_)
      rwa [show c'.outcomesOf m = c.outcomesOf m from congrArg File.outcomes (hfile m hn)] at hended
  · by_cases hn : m = n
    · rw [hn] at ht hmem
      exact absurd hmem (hrests t outcome ht hstage)
    · have ht' : c.tasks[m]? = some t := (congrArg File.task (hfile m hn)).symm.trans ht
      exact h.wakes m hm t outcome ht' hstage (hready m outcome hmem)

end frames

end Client

end SessionKeeper
