import Mathlib.Data.List.Induction
import SessionKeeper.Proofs.Refresh.Runs

/-! # One call for each generation

At any time of any run there is a refresh call without an end exactly if there
is a flight, and then there is one: it was given the credentials of the
generation that the flight replaces.  Over the whole run no generation gets a
second call.

The second part does not follow from the first.  While a call is under way the
session may end and begin again, and the next call may start when the first has
long been forgotten.  What carries it is `Spent`: every generation that got a
call is older than the one the session is idle under, and an idle generation
is the only one that can get a call.

Mathlib gives the induction over a list from its end. -/

namespace SessionKeeper

open SingleFlight (Outcome Reply Flight Asked Landed)

namespace Traffic

/-! ### Where calls come from -/

/-- A step makes no call, or it makes one for the generation that the session
was idle under. -/
inductive Dispatch (t t' : Traffic) : Prop where
  | none (dispatched : t'.dispatched = t.dispatched) (calls : t'.calls <:+ t.calls)
  | one (call : Call) (dispatched : t'.dispatched = t.dispatched ++ [call])
      (calls : t'.calls = [call]) (idle : t.desk.session.state = .loggedIn call.generation)
      (current : t.desk.session.current = some ⟨call.generation, call.credentials⟩)
      (refreshing : t'.desk.session.state = .refreshing call.generation)

theorem Ran.dispatch {t t' : Traffic} {n : Nat} (h : t.Sound) (hran : Ran t n t') :
    Dispatch t t' := by
  cases hran with
  | rest turn => exact .none rfl (List.suffix_refl _)
  | finish turn => exact .none rfl (List.suffix_refl _)
  | answer turn asked => exact .none rfl (List.suffix_refl _)
  | join turn state under => exact .none rfl (List.suffix_refl _)
  | @launch refused c turn idle state current =>
    exact .one ⟨refused, c⟩ rfl (by simp [h.calls_eq_nil idle]) state current rfl

theorem Settled.dispatch {t t' : Traffic} {place : Nat} {result : Except CallError Credentials}
    {sent : List (Nat × Outcome)} (h : Settled t place result sent t') : Dispatch t t' := by
  cases h with
  | nothing none => exact .none rfl (List.suffix_refl _)
  | landed call_eq under generation landed =>
    exact .none (by simp) (by rw [wakeAll_calls]; exact List.nil_suffix)

theorem dispatch_step {t : Traffic} (h : t.Sound) (e : Event) : Dispatch t (t.step e) := by
  cases e with
  | run n => exact (run_spec h.desk n).dispatch h
  | settle place ending => exact (settleAt_spec h place ending.result).dispatch
  | cancel n => exact .none (cancel_dispatched t n) (by simp [Traffic.step])
  | _ => exact .none rfl (List.suffix_refl _)

/-! ### Generations that got a call -/

/-- Every generation that got a call is used up. -/
structure Spent (t : Traffic) : Prop where
  /-- Calls are made for newer and newer generations. -/
  sorted : (t.dispatched.map (·.generation)).Pairwise (· < ·)
  issued : ∀ call ∈ t.dispatched, call.generation.number ≤ t.desk.session.issued
  /-- The generation that the session is idle under got no call. -/
  idle : ∀ call ∈ t.dispatched, ∀ g, t.desk.session.state = .loggedIn g → call.generation < g
  /-- The calls without an end are the last ones that were made. -/
  calls : t.calls <:+ t.dispatched

namespace Spent

variable {t : Traffic}

theorem start (s : Session) : (Traffic.start s).Spent where
  sorted := List.Pairwise.nil
  issued _ h := by cases h
  idle _ h := by cases h
  calls := List.suffix_refl _

/-- **Step.**  The generation of a new call is newer than all that got one,
since the session was idle under it. -/
theorem step (hs : t.Sound) (h : t.Spent) (e : Event) : (t.step e).Spent := by
  have hfollows := follows_step hs e
  cases dispatch_step hs e with
  | none dispatched calls =>
    refine ⟨by rw [dispatched]; exact h.sorted, ?_, ?_, ?_⟩
    · intro call hcall
      rw [dispatched] at hcall
      exact Nat.le_trans (h.issued call hcall) hfollows.issued_le
    · intro call hcall g hg
      rw [dispatched] at hcall
      -- an idle generation was idle before, or nobody had it before
      rcases hfollows.idle g hg with hold | hnew
      · exact h.idle call hcall g hold
      · exact Generation.lt_iff.mpr (Nat.lt_of_le_of_lt (h.issued call hcall) hnew)
    · rw [dispatched]
      exact calls.trans h.calls
  | one call dispatched calls idle current refreshing =>
    have hissued := hs.desk.coherent.number_of_current current
    refine ⟨?_, ?_, ?_, ?_⟩
    · rw [dispatched, List.map_append, List.pairwise_append]
      refine ⟨h.sorted, List.pairwise_singleton _ _, ?_⟩
      intro g hg g' hg'
      obtain ⟨old, hold, rfl⟩ := List.mem_map.mp hg
      rw [List.map_singleton, List.mem_singleton] at hg'
      subst hg'
      exact h.idle old hold _ idle
    · intro call' hcall'
      rw [dispatched] at hcall'
      rcases List.mem_append.mp hcall' with hold | hnew
      · exact Nat.le_trans (h.issued call' hold) hfollows.issued_le
      · rw [List.mem_singleton.mp hnew, hissued]
        exact hfollows.issued_le
    · -- the session is not idle any more
      intro call' _ g hg
      rw [refreshing] at hg
      cases hg
    · rw [dispatched, calls]
      exact List.suffix_append _ _

/-- **Run.**  Every generation that got a call stays used up. -/
theorem after (hs : t.Sound) (h : t.Spent) (es : List Event) : (t.after es).Spent :=
  (after_induction (P := fun t => t.Sound ∧ t.Spent)
    (fun _ e ht => ⟨ht.1.step e, ht.2.step ht.1 e⟩) ⟨hs, h⟩ es).2

/-- No two calls are for one generation. -/
theorem nodup (h : t.Spent) : (t.dispatched.map (·.generation)).Nodup :=
  h.sorted.imp fun hlt heq => by
    rw [heq] at hlt
    exact Nat.lt_irrefl _ hlt

end Spent

/-! ### What calls are given -/

/-- At some time of a run the session had these credentials under this
generation. -/
def KeptUnder (t : Traffic) (es : List Event) (g : Generation) (c : Credentials) : Prop :=
  ∃ past, past <+: es ∧ (t.after past).desk.session.current = some ⟨g, c⟩

/-- What was kept in a part of a run was kept in the run. -/
theorem KeptUnder.mono {t : Traffic} {es es' : List Event} {g : Generation} {c : Credentials}
    (h : t.KeptUnder es g c) (hes : es <+: es') : t.KeptUnder es' g c := by
  obtain ⟨past, hpast, hcurrent⟩ := h
  exact ⟨past, hpast.trans hes, hcurrent⟩

/-- A generation names one pair of credentials for a whole run. -/
theorem KeptUnder.unique {t : Traffic} (ht : t.Sound) {es : List Event} {g : Generation}
    {c c' : Credentials} (h : t.KeptUnder es g c) (h' : t.KeptUnder es g c') : c = c' := by
  obtain ⟨past, hpast, hcurrent⟩ := h
  obtain ⟨past', hpast', hcurrent'⟩ := h'
  -- of two moments of a run one comes before the other
  rcases List.prefix_or_prefix_of_prefix hpast hpast' with ⟨later, rfl⟩ | ⟨later, rfl⟩
  · rw [after_append] at hcurrent'
    exact (follows_after (ht.after past) later).credentials_eq (ht.after past).desk.coherent
      hcurrent hcurrent'
  · rw [after_append] at hcurrent
    exact ((follows_after (ht.after past') later).credentials_eq (ht.after past').desk.coherent
      hcurrent' hcurrent).symm

/-- **Run.**  A call is given what the session kept under its generation. -/
theorem keptUnder_of_dispatched {t : Traffic} (ht : t.Sound) (hnone : t.dispatched = [])
    (es : List Event) :
    ∀ call ∈ (t.after es).dispatched, t.KeptUnder es call.generation call.credentials := by
  -- the newest event comes last, so the induction takes a run from its end
  induction es using List.reverseRecOn with
  | nil => simp [hnone]
  | append_singleton es e ih =>
    have hprefix : es <+: es ++ [e] := List.prefix_append _ _
    intro call hcall
    rw [after_concat] at hcall
    cases dispatch_step (ht.after es) e with
    | none dispatched calls =>
      rw [dispatched] at hcall
      exact (ih call hcall).mono hprefix
    | one call' dispatched calls idle current refreshing =>
      rw [dispatched] at hcall
      rcases List.mem_append.mp hcall with hold | hnew
      · exact (ih call hold).mono hprefix
      · rw [List.mem_singleton.mp hnew]
        exact ⟨es, hprefix, current⟩

/-! ### The branches that are never taken -/

/-- A question is never turned down because the refresh cannot start. -/
theorem ask_ne_notStartable {f : SingleFlight} (h : f.Sound) (caller : Nat)
    (refused : Generation) : (f.ask caller refused).1 ≠ .answered (.error .notStartable) := by
  obtain ⟨reply, f', hask, hasked⟩ := SingleFlight.ask_spec h caller refused
  rw [hask]
  cases hasked with
  | signedOut state =>
    intro heq
    have hne : Refusal.noSession ≠ Refusal.notStartable := by decide
    exact hne (by injection heq with heq; injection heq)
  | joined state under => nofun
  | advanced idle state current ne => nofun
  | launched idle state current => nofun

/-- A call that ends always finds its flight. -/
theorem settle_isSome {t : Traffic} (h : t.Sound) {call : Call} (hcall : call ∈ t.calls)
    (result : Except CallError Credentials) :
    (t.desk.settle call.generation result).1.isSome := by
  cases hflight : t.desk.flight with
  | none =>
    rw [h.calls_eq_nil hflight] at hcall
    cases hcall
  | some flight =>
    obtain ⟨call', hcalls, hg⟩ := h.calls_eq_singleton hflight
    rw [hcalls, List.mem_singleton] at hcall
    obtain ⟨outcome, s, hsettle, -⟩ := SingleFlight.settle_spec h.desk hflight result
    rw [hcall, hg, hsettle]
    rfl

/-! ### The main theorem -/

/-- **One call at a time, and one for each generation.**  At the end of any run
over a restored session:

* there is no flight exactly if no call is without an end, and then the session
  is not refreshing;
* a flight of generation `g` comes with exactly one such call, the last one that
  was made, for `g` and with what the session kept under `g`; and the session is
  refreshing `g`, is over, or is idle under a newer generation;
* no two calls of the run were made for one generation;
* no question is turned down because a refresh cannot start, and no call ends
  without finding its flight. -/
theorem oneCall_after (store : Store) (es : List Event) :
    let t₀ := start (.restore store)
    let t := t₀.after es
    (t.desk.flight = none ↔ t.calls = []) ∧
    (t.desk.flight = none → ∀ g, t.desk.session.state ≠ .refreshing g) ∧
    (∀ flight, t.desk.flight = some flight →
      (∃ c, t.calls = [⟨flight.generation, c⟩] ∧ t.calls <:+ t.dispatched ∧
        t₀.KeptUnder es flight.generation c ∧
        ∀ c', t₀.KeptUnder es flight.generation c' → c' = c) ∧
      (t.desk.session.state = .refreshing flight.generation ∨
        t.desk.session.state = .loggedOut ∨
        ∃ h, t.desk.session.state = .loggedIn h ∧ flight.generation < h)) ∧
    (t.dispatched.map (·.generation)).Nodup ∧
    (∀ caller refused, (t.desk.ask caller refused).1 ≠ .answered (.error .notStartable)) ∧
    (∀ call ∈ t.calls, ∀ result, (t.desk.settle call.generation result).1.isSome) := by
  intro t₀ t
  have h₀ : t₀.Sound := .start store
  have h : t.Sound := h₀.after es
  have hspent : t.Spent := (Spent.start (.restore store)).after h₀ es
  refine ⟨⟨h.calls_eq_nil, ?_⟩, h.desk.idle, ?_, hspent.nodup,
    fun caller refused => ask_ne_notStartable h.desk caller refused,
    fun call hcall result => settle_isSome h hcall result⟩
  · intro hcalls
    cases hflight : t.desk.flight with
    | none => rfl
    | some flight =>
      obtain ⟨call, hcall, -⟩ := h.calls_eq_singleton hflight
      rw [hcalls] at hcall
      cases hcall
  · intro flight hflight
    obtain ⟨⟨g, c⟩, hcalls, hg⟩ := h.calls_eq_singleton hflight
    dsimp only at hg
    subst hg
    -- the call of the flight is among all that were made
    have hkept : t₀.KeptUnder es flight.generation c := by
      have hmem : ⟨flight.generation, c⟩ ∈ t.dispatched :=
        hspent.calls.subset (by rw [hcalls]; exact List.mem_singleton_self _)
      exact keptUnder_of_dispatched h₀ rfl es _ hmem
    exact ⟨⟨c, hcalls, hspent.calls, hkept, fun c' hc' => hc'.unique h₀ hkept⟩,
      (h.desk.awaits flight hflight).state_cases⟩

end Traffic

end SessionKeeper
