import SessionKeeper.Proofs.Refresh.Desk
import SessionKeeper.Refresh.Traffic

/-! # Runs of callers and calls

A run is any list of events, in any order.  What one event does is said once:
`run_spec` for a caller that runs, `settleAt_spec` for a call that ends; all
other events are plain.

`Traffic.Sound` is kept by every event.  It says that the desk is sound and
that the calls without an end are those of the flight: one if there is a
flight, none if there is not.  Over a whole run the session only ever moves on
(`follows_after`).

Core Lean 4 only; no Mathlib. -/

namespace SessionKeeper

open SingleFlight (Outcome Reply Flight Asked Landed)

namespace Traffic

/-! ### Lists of events -/

@[simp] theorem after_nil (t : Traffic) : t.after [] = t := rfl

@[simp] theorem after_cons (t : Traffic) (e : Event) (es : List Event) :
    t.after (e :: es) = (t.step e).after es := rfl

theorem after_append (t : Traffic) (es es' : List Event) :
    t.after (es ++ es') = (t.after es).after es' :=
  List.foldl_append

theorem after_concat (t : Traffic) (es : List Event) (e : Event) :
    t.after (es ++ [e]) = (t.after es).step e := by
  rw [after_append, after_cons, after_nil]

/-- What every event keeps, a run keeps. -/
theorem after_induction {P : Traffic → Prop} (hstep : ∀ t e, P t → P (t.step e)) {t : Traffic}
    (h : P t) (es : List Event) : P (t.after es) := by
  induction es generalizing t with
  | nil => exact h
  | cons e es ih => exact ih (hstep t e h)

/-! ### A caller runs -/

/-- A traffic in which caller `n` has had its turn, and not done anything yet. -/
def rested (t : Traffic) (n : Nat) : Traffic :=
  { t with ready := t.ready.erase n }

/-- What becomes of a traffic when caller `n` runs. -/
inductive Ran (t : Traffic) (n : Nat) : Traffic → Prop where
  /-- It has nothing to do. -/
  | rest (turn : t.turn n = .rest) : Ran t n (t.rested n)
  /-- It returns what it was woken with. -/
  | finish {outcome : Outcome} (turn : t.turn n = .finish outcome) :
      Ran t n ((t.rested n).finish n outcome)
  /-- It asks, and returns with the answer. -/
  | answer {refused : Generation} {outcome : Outcome} (turn : t.turn n = .ask refused)
      (asked : Asked t.desk n refused (.answered outcome) t.desk) :
      Ran t n ((t.rested n).finish n outcome)
  /-- It asks, and joins those who wait. -/
  | join {refused : Generation} {flight : Flight} (turn : t.turn n = .ask refused)
      (state : t.desk.session.isLoggedIn = true) (under : t.desk.flight = some flight) :
      Ran t n
        { t.rested n with
          desk := { t.desk with flight := some { flight with waiters := flight.waiters ++ [n] } }
          callers := t.callers.set n (.waiting refused (flight.generation.isOlder refused)) }
  /-- It asks, and launches a flight. -/
  | launch {refused : Generation} {c : Credentials} (turn : t.turn n = .ask refused)
      (idle : t.desk.flight = none) (state : t.desk.session.state = .loggedIn refused)
      (current : t.desk.session.current = some ⟨refused, c⟩) :
      Ran t n
        { t.rested n with
          desk := ⟨t.desk.session.publish (.refreshing refused), some ⟨refused, [n]⟩⟩
          callers := t.callers.set n (.waiting refused false)
          calls := t.calls ++ [⟨refused, c⟩]
          dispatched := t.dispatched ++ [⟨refused, c⟩] }

theorem run_spec {t : Traffic} (h : t.desk.Sound) (n : Nat) : Ran t n (t.run n) := by
  unfold run
  cases hturn : t.turn n with
  | rest => exact .rest hturn
  | finish outcome => exact .finish hturn
  | ask refused =>
    obtain ⟨reply, desk, hask, hasked⟩ := SingleFlight.ask_spec h n refused
    simp only [ask, hask]
    cases hasked with
    | signedOut state => exact .answer hturn (.signedOut state)
    | joined state under => exact .join hturn state under
    | advanced idle state current ne => exact .answer hturn (.advanced idle state current ne)
    | launched idle state current => exact .launch hturn idle state current

/-! ### Callers are woken -/

/-- A caller that waits, once it is woken. -/
def Caller.roused (outcome : Outcome) : Caller → Caller
  | .waiting refused superseded => .woken refused superseded outcome
  | c => c

/-- Whether a caller waits. -/
def Caller.isWaiting : Caller → Bool
  | .waiting _ _ => true
  | _ => false

/-- Whether caller `n` waits. -/
def waits (t : Traffic) (n : Nat) : Bool :=
  t.callers[n]?.any Caller.isWaiting

theorem waits_iff {t : Traffic} {n : Nat} :
    t.waits n = true ↔
      ∃ refused superseded, t.callers[n]? = some (.waiting refused superseded) := by
  unfold waits
  cases hn : t.callers[n]? with
  | none => simp
  | some c => cases c <;> simp [Caller.isWaiting]

section wake

variable (outcome : Outcome) (t : Traffic) (n : Nat)

@[simp] theorem wake_desk : (wake outcome t n).desk = t.desk := by
  unfold wake
  split <;> rfl

@[simp] theorem wake_calls : (wake outcome t n).calls = t.calls := by
  unfold wake
  split <;> rfl

@[simp] theorem wake_dispatched : (wake outcome t n).dispatched = t.dispatched := by
  unfold wake
  split <;> rfl

theorem wake_callers (m : Nat) :
    (wake outcome t n).callers[m]? =
      if m = n then t.callers[m]?.map (Caller.roused outcome) else t.callers[m]? := by
  unfold wake
  by_cases hm : m = n
  · subst hm
    rw [if_pos rfl]
    cases hn : t.callers[m]? with
    | none => simp [hn]
    | some c =>
      obtain ⟨hlt, -⟩ := List.getElem?_eq_some_iff.mp hn
      cases c with
      | waiting refused superseded => simp [setCaller, Caller.roused, hlt]
      | _ => simp only [hn, Option.map_some, Caller.roused]
  · rw [if_neg hm]
    split
    · simp [setCaller, List.getElem?_set_ne (Ne.symm hm)]
    · rfl

theorem wake_ready :
    (wake outcome t n).ready = t.ready ++ if t.waits n then [n] else [] := by
  unfold wake waits
  cases hn : t.callers[n]? with
  | none => simp
  | some c => cases c <;> simp [Caller.isWaiting]

end wake

section wakeAll

variable (outcome : Outcome) (ns : List Nat) (t : Traffic)

/-- What one caller's waking leaves alone, the waking of many does. -/
theorem wakeAll_eq {α : Type} (f : Traffic → α) (h : ∀ t n, f (wake outcome t n) = f t) :
    f (ns.foldl (wake outcome) t) = f t := by
  induction ns generalizing t with
  | nil => rfl
  | cons n ns ih => rw [List.foldl_cons, ih, h]

@[simp] theorem wakeAll_desk : (ns.foldl (wake outcome) t).desk = t.desk :=
  wakeAll_eq outcome ns t desk (wake_desk outcome)

@[simp] theorem wakeAll_calls : (ns.foldl (wake outcome) t).calls = t.calls :=
  wakeAll_eq outcome ns t calls (wake_calls outcome)

@[simp] theorem wakeAll_dispatched : (ns.foldl (wake outcome) t).dispatched = t.dispatched :=
  wakeAll_eq outcome ns t dispatched (wake_dispatched outcome)

theorem wakeAll_callers (m : Nat) :
    (ns.foldl (wake outcome) t).callers[m]? =
      if m ∈ ns then t.callers[m]?.map (Caller.roused outcome) else t.callers[m]? := by
  induction ns generalizing t with
  | nil => simp
  | cons n ns ih =>
    rw [List.foldl_cons, ih, wake_callers]
    by_cases hmn : m = n
    · subst hmn
      -- a caller that is awake stays as it is, so waking it twice does no more
      have hidem : Caller.roused outcome ∘ Caller.roused outcome = Caller.roused outcome := by
        funext c
        cases c <;> rfl
      by_cases hmem : m ∈ ns <;> simp [hmem, hidem]
    · by_cases hmem : m ∈ ns <;> simp [hmem, hmn]

end wakeAll

/-! ### A call ends -/

/-- What is sent when the call at a place ends with a result, and to whom. -/
def sends (t : Traffic) (place : Nat) (result : Except CallError Credentials) :
    List (Nat × Outcome) :=
  match t.calls[place]? with
  | some call =>
    match (t.desk.settle call.generation result).1 with
    | some (waiters, outcome) => waiters.map (·, outcome)
    | none => []
  | none => []

/-- What is sent when the call at a place ends with a result, and what becomes
of the traffic. -/
inductive Settled (t : Traffic) (place : Nat) (result : Except CallError Credentials) :
    List (Nat × Outcome) → Traffic → Prop where
  /-- There is no such call. -/
  | nothing (none : t.calls[place]? = none) : Settled t place result [] t
  /-- The flight of the call lands, and all who wait are woken. -/
  | landed {call : Call} {flight : Flight} {outcome : Outcome} {s : Session}
      (call_eq : t.calls = [call]) (under : t.desk.flight = some flight)
      (generation : call.generation = flight.generation)
      (landed : Landed t.desk.session flight.generation result outcome s) :
      Settled t place result (flight.waiters.map (·, outcome))
        (flight.waiters.foldl (wake outcome) { t with calls := [], desk := ⟨s, none⟩ })

/-- A traffic fits together. -/
structure Sound (t : Traffic) : Prop where
  desk : t.desk.Sound
  /-- The calls without an end are those of the flight. -/
  calls : t.calls.map (·.generation) = (t.desk.flight.map (·.generation)).toList

namespace Sound

variable {t : Traffic}

theorem calls_eq_nil (h : t.Sound) (hnone : t.desk.flight = none) : t.calls = [] := by
  have hcalls := h.calls
  rw [hnone] at hcalls
  exact List.map_eq_nil_iff.mp hcalls

theorem calls_eq_singleton (h : t.Sound) {flight : Flight} (hflight : t.desk.flight = some flight) :
    ∃ call, t.calls = [call] ∧ call.generation = flight.generation := by
  have hcalls := h.calls
  rw [hflight] at hcalls
  obtain ⟨call, hcall, hg⟩ := List.map_eq_singleton_iff.mp hcalls
  exact ⟨call, hcall, hg⟩

theorem start (store : Store) : (Traffic.start (.restore store)).Sound where
  desk := .restore store
  calls := rfl

end Sound

theorem settleAt_spec {t : Traffic} (h : t.Sound) (place : Nat)
    (result : Except CallError Credentials) :
    Settled t place result (t.sends place result) (t.settleAt place result) := by
  unfold settleAt sends
  cases hplace : t.calls[place]? with
  | none => exact .nothing hplace
  | some call =>
    cases hflight : t.desk.flight with
    | none =>
      rw [h.calls_eq_nil hflight] at hplace
      simp at hplace
    | some flight =>
      obtain ⟨call', hcalls, hg⟩ := h.calls_eq_singleton hflight
      obtain ⟨hlt, hget⟩ := List.getElem?_eq_some_iff.mp hplace
      -- with one call there is one place for it
      have hzero : place = 0 := by
        rw [hcalls] at hlt
        exact Nat.lt_one_iff.mp hlt
      subst hzero
      have heq : call' = call := by simpa [hcalls] using hget
      subst heq
      obtain ⟨outcome, s, hsettle, hlanded⟩ := SingleFlight.settle_spec h.desk hflight result
      have hnil : t.calls.eraseIdx 0 = [] := by rw [hcalls]; rfl
      simp only [settle, hg, hsettle, hnil]
      exact .landed hcalls hflight hg hlanded

/-! ### Every event keeps a traffic sound -/

section cancel

variable (t : Traffic) (n : Nat)

@[simp] theorem cancel_desk : (t.cancel n).desk = t.desk := by
  unfold cancel
  split <;> rfl

@[simp] theorem cancel_calls : (t.cancel n).calls = t.calls := by
  unfold cancel
  split <;> rfl

@[simp] theorem cancel_dispatched : (t.cancel n).dispatched = t.dispatched := by
  unfold cancel
  split <;> rfl

/-- Whoever has returned cannot be cancelled any more. -/
theorem cancel_callers : (t.cancel n).callers = t.callers ∨
    (t.cancel n).callers = t.callers.set n .cancelled := by
  unfold cancel
  split
  · exact Or.inl rfl
  · exact Or.inr rfl

end cancel

namespace Sound

variable {t t' : Traffic}

theorem ran (h : t.Sound) {n : Nat} (hran : Ran t n t') : t'.Sound := by
  cases hran with
  | rest turn => exact ⟨h.desk, h.calls⟩
  | finish turn => exact ⟨h.desk, h.calls⟩
  | answer turn asked => exact ⟨h.desk, h.calls⟩
  | @join refused flight turn state under =>
    have hasked : Asked t.desk n refused _ _ := .joined state under
    refine ⟨hasked.sound h.desk, ?_⟩
    have hcalls := h.calls
    rw [under] at hcalls
    exact hcalls
  | @launch refused c turn idle state current =>
    have hasked : Asked t.desk n refused _ _ := .launched idle state current
    refine ⟨hasked.sound h.desk, ?_⟩
    simp [h.calls_eq_nil idle]

theorem settled (h : t.Sound) {place : Nat} {result : Except CallError Credentials}
    {sent : List (Nat × Outcome)} (hsettled : Settled t place result sent t') : t'.Sound := by
  cases hsettled with
  | nothing none => exact h
  | landed call_eq under generation landed =>
    exact ⟨by rw [wakeAll_desk]; exact landed.sound h.desk.coherent, by simp⟩

/-- **Step.**  The session, the flight and the call of the flight fit together after an event. -/
theorem step (h : t.Sound) (e : Event) : (t.step e).Sound := by
  cases e with
  | spawn refused => exact ⟨h.desk, h.calls⟩
  | run n => exact h.ran (run_spec h.desk n)
  | settle place ending => exact h.settled (settleAt_spec h place ending.result)
  | cancel n => exact ⟨by simpa [Traffic.step] using h.desk, by simpa [Traffic.step] using h.calls⟩
  | signIn c => exact ⟨h.desk.signIn c, h.calls⟩
  | signOut => exact ⟨h.desk.signOut, h.calls⟩
  | claimPrompt => exact ⟨h.desk.claimPrompt, h.calls⟩
  | store store => exact ⟨h.desk.store store, h.calls⟩

/-- **Run.**  They fit together at all times. -/
theorem after (h : t.Sound) (es : List Event) : (t.after es).Sound :=
  after_induction (fun _ e ht => ht.step e) h es

end Sound

/-! ### The session only moves on -/

theorem Ran.follows {t t' : Traffic} {n : Nat} (h : Ran t n t') :
    t.desk.session.Follows t'.desk.session := by
  cases h with
  | rest turn => exact .refl _
  | finish turn => exact .refl _
  | answer turn asked => exact .refl _
  | join turn state under => exact .refl _
  | launch turn idle state current => exact .startRefresh _ _

theorem Settled.follows {t t' : Traffic} {place : Nat} {result : Except CallError Credentials}
    {sent : List (Nat × Outcome)} (h : Settled t place result sent t') :
    t.desk.session.Follows t'.desk.session := by
  cases h with
  | nothing none => exact .refl _
  | landed call_eq under generation landed =>
    rw [wakeAll_desk]
    exact landed.follows

/-- **Step.**  What an event leaves in use was in use before, or was never handed out before. -/
theorem follows_step {t : Traffic} (h : t.Sound) (e : Event) :
    t.desk.session.Follows (t.step e).desk.session := by
  cases e with
  | spawn refused => exact .refl _
  | run n => exact (run_spec h.desk n).follows
  | settle place ending => exact (settleAt_spec h place ending.result).follows
  | cancel n =>
    show t.desk.session.Follows (t.cancel n).desk.session
    rw [cancel_desk]
    exact .refl _
  | signIn c => exact .signIn _ c
  | signOut => exact .signOut _
  | claimPrompt => exact .claimPrompt _
  | store store => exact .of_same rfl rfl (fun _ hg => hg)

/-- **Run.**  The same holds of what a whole run leaves in use. -/
theorem follows_after {t : Traffic} (h : t.Sound) (es : List Event) :
    t.desk.session.Follows (t.after es).desk.session := by
  induction es generalizing t with
  | nil => exact .refl _
  | cons e es ih => exact (follows_step h e).trans (ih (h.step e))

end Traffic

end SessionKeeper
