import Mathlib.Data.List.Induction
import SessionKeeper.Proofs.Refresh.Waiters

/-! # What an answer means

The answer that a caller returns is decided in one step of the run: when the
caller asks and is answered at once, or when the flight that it waits for
lands.  The caller returns it later, whenever it runs again.

In the step that decides it, the answer is the truth about the session
(`Means`).  Credentials are those in use, and newer than the refused ones; a
refusal says that the session is over.  What is newer follows from two facts: a
session that is idle is so under the newest generation, and a caller that does
not ask again waited for a flight that replaces its own generation or a newer
one.

Mathlib gives the induction over a list from its end. -/

namespace SessionKeeper

open SingleFlight (Outcome Reply Flight Asked Landed)

/-- What an answer to somebody whose credentials of generation `refused` were
refused says about a session. -/
def Session.Means (s : Session) (refused : Generation) : Outcome → Prop
  | .ok c => ∃ g, s.state = .loggedIn g ∧ s.current = some ⟨g, c⟩ ∧ refused < g
  | .error _ => s.state = .loggedOut ∧ s.current = none

namespace SingleFlight

/-- An answer that is given at once. -/
theorem Asked.means {f f' : SingleFlight} {caller : Nat} {refused : Generation} {outcome : Outcome}
    (h : Asked f caller refused (.answered outcome) f') (hf : f.Sound)
    (hissued : f.session.HasIssued refused) : f.session.Means refused outcome := by
  cases h with
  | signedOut state => exact ⟨state, hf.coherent.current_of_loggedOut state⟩
  | @advanced g c idle state current ne =>
    refine ⟨g, state, current, ?_⟩
    -- no generation is newer than the one in use, and this one is another
    have hnewest : g.number = f.session.issued := hf.coherent.number_of_current current
    have hle : refused.number ≤ g.number := by
      rw [hnewest]
      exact hissued.2
    have hne : refused.number ≠ g.number := fun heq => ne (by
      cases g
      cases refused
      cases heq
      rfl)
    exact Generation.lt_iff.mpr (by omega)

/-- An answer that a landing gives to those who waited. -/
theorem Landed.means {s s' : Session} {g refused : Generation}
    {result : Except CallError Credentials} {outcome : Outcome} (h : Landed s g result outcome s')
    (hs : s.Coherent) (ha : s.Awaits g) (hle : refused ≤ g) : s'.Means refused outcome := by
  have hle' : refused.number ≤ g.number := hle
  cases h with
  | @replaced c state returned =>
    -- the next generation is newer than all that were handed out, `g` among them
    refine ⟨s.nextGeneration, rfl, rfl, ?_⟩
    have hnext := s.nextGeneration_number
    have hissued := ha.issued
    exact Generation.lt_iff.mpr (by omega)
  | failed state returned => exact ⟨rfl, rfl⟩
  | overtaken state newer current =>
    have hlt := Generation.lt_iff.mp newer
    exact ⟨_, state, current, Generation.lt_iff.mpr (by omega)⟩
  | ended state => exact ⟨state, hs.current_of_loggedOut state⟩

end SingleFlight

namespace Traffic

/-! ### Which generation a caller named -/

/-- The generation that a caller whose answer is open has named. -/
def Caller.refused? : Caller → Option Generation
  | .asking refused => some refused
  | .waiting refused _ => some refused
  | .woken refused _ _ => some refused
  | .finished _ => none
  | .cancelled => none

/-- The generation that the caller who comes with an event has named. -/
def Event.refused? : Event → Option Generation
  | .spawn refused => some refused
  | _ => none

/-- The callers are those who came, and stick to the generation they named. -/
structure Named (t : Traffic) (gs : List Generation) : Prop where
  length : t.callers.length = gs.length
  refused : ∀ (n : Nat) c g, t.callers[n]? = some c → c.refused? = some g → gs[n]? = some g

/-- A caller that asks in its turn names the generation that it named before. -/
theorem caller_of_turn_ask {t : Traffic} (h : t.Attached) {n : Nat} {refused : Generation}
    (hturn : t.turn n = .ask refused) : t.callers[n]? = some (.asking refused) ∨
      ∃ outcome, t.callers[n]? = some (.woken refused true outcome) := by
  have hspec := turn_spec h n
  rw [hturn] at hspec
  cases hspec with
  | ask caller => exact Or.inl caller
  | askAgain caller => exact Or.inr ⟨_, caller⟩

theorem caller_of_turn_finish {t : Traffic} (h : t.Attached) {n : Nat} {outcome : Outcome}
    (hturn : t.turn n = .finish outcome) :
    ∃ refused, t.callers[n]? = some (.woken refused false outcome) := by
  have hspec := turn_spec h n
  rw [hturn] at hspec
  cases hspec with
  | finish caller => exact ⟨_, caller⟩

theorem Ran.length {t t' : Traffic} {n : Nat} (h : Ran t n t') :
    t'.callers.length = t.callers.length := by
  cases h with
  | rest turn => rfl
  | finish turn => exact List.length_set
  | answer turn asked => exact List.length_set
  | join turn state under => exact List.length_set
  | launch turn idle state current => exact List.length_set

theorem Settled.length {t t' : Traffic} {place : Nat} {result : Except CallError Credentials}
    {sent : List (Nat × Outcome)} (h : Settled t place result sent t') :
    t'.callers.length = t.callers.length := by
  cases h with
  | nothing none => rfl
  | landed call_eq under generation landed =>
    refine wakeAll_eq _ _ _ (·.callers.length) fun t n => ?_
    unfold wake
    split
    · simp [setCaller]
    · rfl

theorem length_step {t : Traffic} (hs : t.Sound) (e : Event) :
    (t.step e).callers.length = t.callers.length + e.refused?.toList.length := by
  cases e with
  | spawn refused => simp [step, spawn, Event.refused?]
  | run n => exact (run_spec hs.desk n).length
  | settle place ending => exact (settleAt_spec hs place ending.result).length
  | cancel n =>
    show (t.cancel n).callers.length = t.callers.length
    rcases cancel_callers t n with hsame | hgone
    · rw [hsame]
    · rw [hgone, List.length_set]
  | _ => rfl

/-- **Step.**  A caller keeps its number and the generation it has named, and a new one comes
last. -/
theorem Named.step {t : Traffic} {gs : List Generation} (hs : t.Sound) (h : t.Attached)
    (hn : t.Named gs) (e : Event) : (t.step e).Named (gs ++ e.refused?.toList) where
  length := by rw [length_step hs, hn.length, List.length_append]
  refused n c g hc hg := by
    have hgrow : ∀ {c'}, t.callers[n]? = some c' → c'.refused? = some g →
        (gs ++ e.refused?.toList)[n]? = some g := fun hold hg' => by
      have hget := hn.refused n _ g hold hg'
      rwa [List.getElem?_append_left (List.getElem?_eq_some_iff.mp hget).1]
    cases fate_spec hs h e hc with
    | same caller => exact hgrow caller hg
    | spawned last =>
      cases hg
      rw [last, hn.length]
      simp [Event.refused?]
    | waits turn =>
      cases hg
      rcases caller_of_turn_ask h turn with hold | ⟨outcome, hold⟩
      · exact hgrow hold rfl
      · exact hgrow hold rfl
    | woken caller under sent landed => exact hgrow caller hg
    | answered turn asked desk => cases hg
    | finished turn => cases hg
    | cancelled => cases hg

/-- **Run.**  The callers are those who came, in this order, with the generations they named. -/
theorem Named.after {t : Traffic} {gs : List Generation} (hs : t.Sound) (h : t.Attached)
    (hn : t.Named gs) (es : List Event) :
    (t.after es).Named (gs ++ es.filterMap Event.refused?) := by
  induction es generalizing t gs with
  | nil => rwa [List.filterMap_nil, List.append_nil]
  | cons e es ih =>
    have hnext := ih (hs.step e) (h.step hs e) (hn.step hs h e)
    rw [List.append_assoc] at hnext
    have hcons : (e :: es).filterMap Event.refused? =
        e.refused?.toList ++ es.filterMap Event.refused? := by
      cases e <;> rfl
    rw [hcons]
    exact hnext

/-! ### The step that decides -/

/-- The answer that a caller returns, or is going to return when it runs. -/
def Caller.decided? : Caller → Option Outcome
  | .woken _ false outcome => some outcome
  | .finished outcome => some outcome
  | _ => none

/-- The answer that is decided for caller `n`. -/
def decided? (t : Traffic) (n : Nat) : Option Outcome :=
  t.callers[n]?.bind Caller.decided?

/-- **Step.**  An answer was decided before, or is decided now and means what it
says.  Once decided it does not change. -/
theorem decided_step {t : Traffic} (hs : t.Sound) (h : t.Attached) {e : Event} {n : Nat}
    {outcome : Outcome} (hdecided : (t.step e).decided? n = some outcome) :
    t.decided? n = some outcome ∨ t.decided? n = none ∧ ∃ c refused,
      t.callers[n]? = some c ∧ c.refused? = some refused ∧
      (t.desk.session.HasIssued refused → (t.step e).desk.session.Means refused outcome) := by
  obtain ⟨c, hc, hout⟩ := Option.bind_eq_some_iff.mp hdecided
  have hopen : ∀ {c'}, t.callers[n]? = some c' → t.decided? n = c'.decided? := fun hold => by
    rw [decided?, hold, Option.bind_some]
  -- one case for each thing that can become of the caller
  cases fate_spec hs h e hc with
  | same caller => exact Or.inl ((hopen caller).trans hout)
  | spawned last => cases hout
  | waits turn => cases hout
  | cancelled => cases hout
  | @answered refused outcome turn asked desk =>
    cases hout
    refine Or.inr ?_
    have hmeans : t.desk.session.HasIssued refused →
        (t.run n).desk.session.Means refused outcome := by
      rw [desk]
      exact asked.means hs.desk
    -- it came to ask, or was woken by a superseded flight; its answer was open
    rcases caller_of_turn_ask h turn with hold | ⟨_, hold⟩
    · exact ⟨hopen hold, _, refused, hold, rfl, hmeans⟩
    · exact ⟨hopen hold, _, refused, hold, rfl, hmeans⟩
  | finished turn =>
    obtain ⟨refused, hold⟩ := caller_of_turn_finish h turn
    exact Or.inl ((hopen hold).trans hout)
  | @woken place ending refused superseded flight outcome caller under sent landed =>
    cases superseded with
    | true => cases hout
    | false =>
      -- the flight was not superseded, so it replaced `refused` or something newer
      cases hout
      refine Or.inr ⟨hopen caller, _, refused, caller, rfl, fun _ => ?_⟩
      have hle := Generation.isOlder_eq_false.mp
        (h.superseded n refused false flight caller under).symm
      exact landed.means hs.desk.coherent (hs.desk.awaits flight under) hle

/-- **Run.**  An answer that is decided was decided in some step. -/
theorem exists_deciding_step {t : Traffic} (hs : t.Sound) (h : t.Attached) {n : Nat}
    (hopen : t.decided? n = none) {es : List Event} {outcome : Outcome}
    (hdecided : (t.after es).decided? n = some outcome) :
    ∃ past e later, es = past ++ e :: later ∧ (t.after past).decided? n = none ∧
      ((t.after past).step e).decided? n = some outcome ∧ ∃ c refused,
        (t.after past).callers[n]? = some c ∧ c.refused? = some refused ∧
        ((t.after past).desk.session.HasIssued refused →
          ((t.after past).step e).desk.session.Means refused outcome) := by
  -- once decided an answer stays as it is, so the step is looked for from the end
  induction es using List.reverseRecOn with
  | nil =>
    rw [after_nil, hopen] at hdecided
    cases hdecided
  | append_singleton es e ih =>
    rw [after_concat] at hdecided
    rcases decided_step (hs.after es) (h.after hs es) hdecided with hbefore | ⟨hnow, hmeans⟩
    · obtain ⟨past, e', later, rfl, hstep⟩ := ih hbefore
      exact ⟨past, e', later ++ [e], by simp, hstep⟩
    · exact ⟨es, e, [], rfl, hnow, hdecided, hmeans⟩

/-- **Every answer was the truth when it was decided.**  Take any run over a
restored session and a caller whose answer is decided, and let `refused` be the
generation it named when it came.  Some step of the run decides the answer: it
is open before that step and decided after it.  If the session has handed out
`refused` by then, the session after that very step is as the answer says. -/
theorem means_after (store : Store) (es : List Event) (n : Nat) (refused : Generation)
    (outcome : Outcome) (hnamed : (es.filterMap Event.refused?)[n]? = some refused)
    (hdecided : ((start (.restore store)).after es).decided? n = some outcome) :
    ∃ past e later, es = past ++ e :: later ∧
      let before := (start (.restore store)).after past
      let after := before.step e
      before.decided? n = none ∧ after.decided? n = some outcome ∧
        (before.desk.session.HasIssued refused → after.desk.session.Means refused outcome) := by
  have hs : (start (.restore store)).Sound := .start store
  have ha : (start (.restore store)).Attached := .start _
  have hn : (start (.restore store)).Named [] := ⟨rfl, fun n c g hc _ => by simp [start] at hc⟩
  obtain ⟨past, e, later, rfl, hopen, hnow, c, refused', hc, hrefused, hmeans⟩ :=
    exists_deciding_step hs ha rfl hdecided
  refine ⟨past, e, later, rfl, hopen, hnow, ?_⟩
  -- the generation that the caller sticks to is the one it named when it came
  have hpast : (past.filterMap Event.refused?)[n]? = some refused' :=
    (hn.after hs ha past).refused n c refused' hc hrefused
  have heq : refused' = refused := by
    rw [List.filterMap_append,
      List.getElem?_append_left (List.getElem?_eq_some_iff.mp hpast).1, hpast] at hnamed
    exact Option.some.inj hnamed
  rw [heq] at hmeans
  exact hmeans

/-- A caller names the first generation, and the refresh that it launches comes
to good. -/
theorem means_after_renewal :
    let old : Credentials := ⟨"old", "Bearer", some "more", none⟩
    let new : Credentials := ⟨"new", "Bearer", some "more", none⟩
    let es : List Event :=
      [.signIn old, .spawn .first, .run 0, .settle 0 (.returned (.ok new)), .run 0]
    (es.filterMap Event.refused?)[0]? = some .first ∧
    ((start (.restore .inMemory)).after es).decided? 0 = some (.ok new) ∧
    ∃ past e later, es = past ++ e :: later ∧
      let before := (start (.restore .inMemory)).after past
      let after := before.step e
      before.decided? 0 = none ∧ after.decided? 0 = some (.ok new) ∧
        (before.desk.session.HasIssued .first → after.desk.session.Means .first (.ok new)) := by
  intro old new es
  have hnamed : (es.filterMap Event.refused?)[0]? = some .first := rfl
  have hdecided : ((start (.restore .inMemory)).after es).decided? 0 = some (.ok new) := rfl
  exact ⟨hnamed, hdecided, means_after .inMemory es 0 .first (.ok new) hnamed hdecided⟩

end Traffic

end SessionKeeper
