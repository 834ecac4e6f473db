import SessionKeeper.Proofs.Refresh.Answers
import SessionKeeper.Proofs.Refresh.Delivery

/-! # Nobody asks a third time

A caller that has waited for a superseded flight asks again.  By then the session may have
ended and begun anew any number of times, and others may have launched new flights.  Still
the caller does not come upon a superseded flight a second time: while it waited the
generation it names had been handed out, so whoever launches a flight after the first one
has landed does so for this generation or a newer one (`Fresh`).

So a caller asks twice at most, waits twice at most, and what it returns is an answer that
it was given at once, or comes from a flight that was not superseded (`Stage`).

No more of Mathlib than the imports bring. -/

namespace SessionKeeper

open SingleFlight (Outcome Reply Flight Asked Landed)

namespace Traffic

/-! ### What is seen of one caller -/

/-- A question that a caller has asked: the reply, and the generation of the flight under way
then, for which the caller waits unless it was answered at once. -/
structure Question where
  reply : Reply
  flight : Option Generation

/-- Whether a caller that names a generation has come upon a superseded flight. -/
def Question.isSuperseded (refused : Generation) (q : Question) : Bool :=
  match q.reply with
  | .answered _ => false
  | _ => q.flight.any (·.isOlder refused)

/-- What caller `n` asks in an event, if it does. -/
def asks (n : Nat) (t : Traffic) : Event → List Question
  | .run m =>
    if m = n then
      match t.turn n with
      | .ask refused =>
        let (reply, desk) := t.desk.ask n refused
        [⟨reply, desk.flight.map (·.generation)⟩]
      | _ => []
    else []
  | _ => []

/-- What caller `n` is woken with in an event, if it has waited, and the generation of the
flight that has landed. -/
def landings (n : Nat) (t : Traffic) : Event → List (Generation × Outcome)
  | .settle place ending =>
    match t.waits n, t.desk.flight, (t.settleAt place ending.result).callers[n]? with
    | true, some flight, some (.woken _ _ outcome) => [(flight.generation, outcome)]
    | _, _, _ => []
  | _ => []

variable {t t' : Traffic} {n : Nat} {refused : Generation}

/-- A caller asks only when it runs. -/
theorem asks_of_ne {e : Event} (h : e ≠ .run n) : t.asks n e = [] := by
  unfold asks
  split
  · next m =>
    have hm : m ≠ n := by
      intro heq
      exact h (by rw [heq])
    rw [if_neg hm]
  · rfl

theorem asks_of_rest (hturn : t.turn n = .rest) : t.asks n (.run n) = [] := by
  simp only [asks, if_true, hturn]

theorem asks_of_finish {outcome : Outcome} (hturn : t.turn n = .finish outcome) :
    t.asks n (.run n) = [] := by
  simp only [asks, if_true, hturn]

/-- Nobody who stays as it was is woken. -/
theorem landings_of_same {e : Event} (h : (t.step e).callers[n]? = t.callers[n]?) :
    t.landings n e = [] := by
  unfold landings
  split
  · next place ending =>
    have hsame : (t.settleAt place ending.result).callers[n]? = t.callers[n]? := h
    rw [hsame]
    split
    · next hwaits _ hwoken =>
      rw [waits_of_caller hwoken] at hwaits
      cases hwaits
    · rfl
  · rfl

/-! ### Flights that are not superseded -/

/-- A flight under way replaces this generation or a newer one. -/
def Fresh (refused : Generation) (t : Traffic) : Prop :=
  ∀ flight, t.desk.flight = some flight → refused ≤ flight.generation

theorem Fresh.of_none (h : t.desk.flight = none) : Fresh refused t := by
  intro flight hflight
  rw [h] at hflight
  cases hflight

/-- **Step.**  A new flight replaces the newest generation, so if `refused` was handed out no
flight will be older, once none is. -/
theorem Fresh.step (hs : t.Sound) (h : Fresh refused t)
    (hissued : refused.number ≤ t.desk.session.issued) (e : Event) : Fresh refused (t.step e) := by
  match e with
  | .run m =>
    have hran := run_spec hs.desk m
    show Fresh refused (t.run m)
    generalize t.run m = t' at hran
    cases hran with
    | rest turn => exact h
    | finish turn => exact h
    | answer turn asked => exact h
    | join turn state under =>
      -- the flight has one more on its list, and the same generation
      intro flight hflight
      cases hflight
      have hold := h _ under
      exact hold
    | @launch g c turn idle state current =>
      intro flight hflight
      cases hflight
      have hnewest : g.number = t.desk.session.issued := hs.desk.coherent.number_of_current current
      show refused.number ≤ g.number
      omega
  | .settle place ending =>
    -- a landing leaves no flight behind
    have hsettled := settleAt_spec hs place ending.result
    show Fresh refused (t.settleAt place ending.result)
    generalize t.settleAt place ending.result = t' at hsettled
    generalize t.sends place ending.result = sent at hsettled
    cases hsettled with
    | nothing none => exact h
    | landed call_eq under generation landed => exact .of_none (by rw [wakeAll_desk])
  | .cancel m =>
    intro flight hflight
    have hsame : t.desk.flight = some flight := by rwa [← cancel_desk t m]
    exact h flight hsame
  | .spawn _ | .signIn _ | .signOut | .claimPrompt | .store _ => exact h

/-- Whoever is woken finds that its flight has gone. -/
theorem Fresh.of_woken (hs : t.Sound) {place : Nat} {ending : Ending} {superseded : Bool}
    {outcome : Outcome} (hwaits : t.waits n = true)
    (hwoken : (t.step (.settle place ending)).callers[n]? =
      some (.woken refused superseded outcome)) :
    Fresh refused (t.step (.settle place ending)) := by
  have hsettled := settleAt_spec hs place ending.result
  revert hwoken
  show (t.settleAt place ending.result).callers[n]? = _ →
    Fresh refused (t.settleAt place ending.result)
  generalize t.settleAt place ending.result = t' at hsettled
  generalize t.sends place ending.result = sent at hsettled
  intro hwoken
  cases hsettled with
  | nothing none =>
    rw [waits_of_caller hwoken] at hwaits
    cases hwaits
  | landed call_eq under generation landed => exact .of_none (by rw [wakeAll_desk])

/-! ### How far a caller has come -/

/-- A caller may have waited once already, for a superseded flight. -/
inductive Prior (refused : Generation) : List Question → List (Generation × Outcome) → Prop where
  | none : Prior refused [] []
  | superseded {q : Question} {g : Generation} {outcome : Outcome}
      (asked : q.isSuperseded refused = true) (older : g < refused) :
      Prior refused [q] [(g, outcome)]

/-- What a caller that names `refused` is at, what it has asked, and what it was woken
with. -/
inductive Stage (refused : Generation) (t : Traffic) :
    Caller → List Question → List (Generation × Outcome) → Prop where
  | asking : Stage refused t (.asking refused) [] []
  /-- It has come upon a superseded flight. -/
  | outrun {q : Question} (asked : q.isSuperseded refused = true) :
      Stage refused t (.waiting refused true) [q] []
  /-- This flight has landed, and any flight under way is another one. -/
  | again {q : Question} {g : Generation} {outcome : Outcome}
      (asked : q.isSuperseded refused = true) (older : g < refused) (fresh : Fresh refused t) :
      Stage refused t (.woken refused true outcome) [q] [(g, outcome)]
  /-- It waits for a flight that is not superseded. -/
  | waits {questions : List Question} {landed : List (Generation × Outcome)} {q : Question}
      (prior : Prior refused questions landed) (asked : q.isSuperseded refused = false) :
      Stage refused t (.waiting refused false) (questions ++ [q]) landed
  | woken {questions : List Question} {landed : List (Generation × Outcome)} {q : Question}
      {g : Generation} {outcome : Outcome} (prior : Prior refused questions landed)
      (asked : q.isSuperseded refused = false) (newer : refused ≤ g) :
      Stage refused t (.woken refused false outcome) (questions ++ [q])
        (landed ++ [(g, outcome)])
  | answered {questions : List Question} {landed : List (Generation × Outcome)} {q : Question}
      {outcome : Outcome} (prior : Prior refused questions landed)
      (asked : q.reply = .answered outcome) :
      Stage refused t (.finished outcome) (questions ++ [q]) landed
  | returned {questions : List Question} {landed : List (Generation × Outcome)} {q : Question}
      {g : Generation} {outcome : Outcome} (prior : Prior refused questions landed)
      (asked : q.isSuperseded refused = false) (newer : refused ≤ g) :
      Stage refused t (.finished outcome) (questions ++ [q]) (landed ++ [(g, outcome)])
  /-- It went away from any of these. -/
  | cancelled {c : Caller} {questions : List Question} {landed : List (Generation × Outcome)}
      (before : Stage refused t c questions landed) : Stage refused t .cancelled questions landed

/-- What a question makes of the caller that has asked it. -/
def Caller.told (refused : Generation) : Reply → Caller
  | .answered outcome => .finished outcome
  | .joined superseded => .waiting refused superseded
  | .launched _ _ => .waiting refused false

variable {c : Caller} {questions : List Question} {landed : List (Generation × Outcome)}

namespace Stage

/-- The callers' list and the calls are nothing to it. -/
theorem congr (h : Stage refused t c questions landed)
    (hfresh : Fresh refused t → Fresh refused t') : Stage refused t' c questions landed := by
  induction h with
  | asking => exact .asking
  | outrun asked => exact .outrun asked
  | again asked older fresh => exact .again asked older (hfresh fresh)
  | waits prior asked => exact .waits prior asked
  | woken prior asked newer => exact .woken prior asked newer
  | answered prior asked => exact .answered prior asked
  | returned prior asked newer => exact .returned prior asked newer
  | cancelled before ih => exact .cancelled ih

/-- **At no stage were there more than two rounds.** -/
theorem bounded (h : Stage refused t c questions landed) :
    questions.countP (Question.isSuperseded refused) ≤ 1 ∧
      questions.length ≤ questions.countP (Question.isSuperseded refused) + 1 ∧
      landed.length ≤ questions.length := by
  have hlast : ∀ {questions landed} {last : Question}, Prior refused questions landed →
      last.isSuperseded refused = false →
      (questions ++ [last]).countP (Question.isSuperseded refused) ≤ 1 ∧
        (questions ++ [last]).length ≤
          (questions ++ [last]).countP (Question.isSuperseded refused) + 1 ∧
        landed.length + 1 ≤ (questions ++ [last]).length := by
    intro questions landed last hprior hlast
    cases hprior with
    | none => simp [hlast]
    | superseded asked older => simp [hlast, asked]
  induction h with
  | asking => simp
  | outrun asked => simp [asked]
  | again asked older fresh => simp [asked]
  | waits prior asked =>
    obtain ⟨hone, htwo, hlanded⟩ := hlast prior asked
    exact ⟨hone, htwo, by omega⟩
  | answered prior asked =>
    obtain ⟨hone, htwo, hlanded⟩ := hlast prior (by rw [Question.isSuperseded, asked])
    exact ⟨hone, htwo, by omega⟩
  | woken prior asked newer | returned prior asked newer =>
    obtain ⟨hone, htwo, hlanded⟩ := hlast prior asked
    refine ⟨hone, htwo, ?_⟩
    rw [List.length_append, List.length_singleton]
    exact hlanded
  | cancelled before ih => exact ih

/-- **What a caller returns does not come from a superseded flight.** -/
theorem source {outcome : Outcome} (h : Stage refused t (.finished outcome) questions landed) :
    ∃ q, questions.getLast? = some q ∧ q.isSuperseded refused = false ∧
      (q.reply = .answered outcome ∨
        ∃ g, landed.getLast? = some (g, outcome) ∧ refused ≤ g) := by
  cases h with
  | @answered _ _ q _ prior asked =>
    refine ⟨q, List.getLast?_concat, ?_, Or.inl asked⟩
    rw [Question.isSuperseded, asked]
  | @returned _ _ q g _ prior asked newer =>
    exact ⟨q, List.getLast?_concat, asked, Or.inr ⟨g, List.getLast?_concat, newer⟩⟩

/-- A caller that has not asked since it came, or since a superseded flight landed, asks: it
has to wait for a superseded flight only if it has not done so before. -/
theorem told (hprior : Prior refused questions landed)
    (hfresh : questions = [] ∨ Fresh refused t) {reply : Reply} {desk : SingleFlight}
    (hasked : Asked t.desk n refused reply desk) :
    Stage refused t' (.told refused reply)
      (questions ++ [⟨reply, desk.flight.map (·.generation)⟩]) landed := by
  cases hasked with
  | signedOut state => exact .answered hprior rfl
  | advanced idle state current ne => exact .answered hprior rfl
  | launched idle state current =>
    -- nothing is superseded by a flight of its own generation
    have hown : refused.isOlder refused = false := Generation.isOlder_eq_false.mpr (Nat.le_refl _)
    exact .waits hprior hown
  | @joined flight state under =>
    show Stage refused t' (.waiting refused (flight.generation.isOlder refused)) _ _
    by_cases hold : flight.generation < refused
    · have holder : flight.generation.isOlder refused = true := Generation.isOlder_eq_true.mpr hold
      -- a flight like this is there only the first time
      rcases hfresh with hfirst | hfresh
      · cases hprior with
        | none =>
          rw [holder]
          exact .outrun holder
        | superseded asked older => cases hfirst
      · have hnewer := hfresh flight under
        have hlt := Generation.lt_iff.mp hold
        have hle := Generation.le_iff.mp hnewer
        omega
    · have hnot : flight.generation.isOlder refused = false := by
        rw [Bool.eq_false_iff]
        intro htrue
        exact hold (Generation.isOlder_eq_true.mp htrue)
      rw [hnot]
      exact .waits hprior hnot

end Stage

/-! ### One caller in a run -/

/-- A caller that names `refused` has come so far, with these questions and these landings
behind it. -/
structure Rounds (refused : Generation) (n : Nat) (t : Traffic) (questions : List Question)
    (landed : List (Generation × Outcome)) : Prop where
  issued : refused.number ≤ t.desk.session.issued
  stage : ∃ c, t.callers[n]? = some c ∧ Stage refused t c questions landed

/-- What a question does to the traffic. -/
theorem run_of_ask (h : t.desk.Sound) (hturn : t.turn n = .ask refused) :
    ∃ reply desk, t.desk.ask n refused = (reply, desk) ∧ Asked t.desk n refused reply desk ∧
      (t.run n).callers = t.callers.set n (.told refused reply) := by
  obtain ⟨reply, desk, hask, hasked⟩ := SingleFlight.ask_spec h n refused
  refine ⟨reply, desk, hask, hasked, ?_⟩
  simp only [run, hturn, ask, hask]
  cases reply <;> rfl

theorem run_of_rest (hturn : t.turn n = .rest) : t.run n = t.rested n := by
  unfold run
  rw [hturn]
  rfl

namespace Rounds

/-- The caller asks. -/
theorem ask (hs : t.Sound) (hturn : t.turn n = .ask refused) (hc : t.callers[n]? = some c)
    (hissued : refused.number ≤ t.desk.session.issued) (hprior : Prior refused questions landed)
    (hfresh : questions = [] ∨ Fresh refused t) :
    Rounds refused n (t.run n) (questions ++ t.asks n (.run n)) landed := by
  obtain ⟨reply, desk, hask, hasked, hcallers⟩ := run_of_ask hs.desk hturn
  have hquestion : t.asks n (.run n) = [⟨reply, desk.flight.map (·.generation)⟩] := by
    simp only [asks, if_true, hturn, hask]
  have hnow : (t.run n).callers[n]? = some (.told refused reply) := by
    rw [hcallers, getElem?_set_of_some hc, if_pos rfl]
  refine ⟨?_, _, hnow, ?_⟩
  · have hle := (run_spec hs.desk n).follows.issued_le
    omega
  · rw [hquestion]
    exact .told hprior hfresh hasked

/-- The caller runs. -/
theorem run (hs : t.Sound) (ha : t.Attached) (h : Rounds refused n t questions landed) :
    Rounds refused n (t.run n) (questions ++ t.asks n (.run n)) landed := by
  obtain ⟨hissued, c, hc, hstage⟩ := h
  -- whoever waits, has returned or has gone does nothing when it runs
  have hrest : t.turn n = .rest →
      Rounds refused n (t.run n) (questions ++ t.asks n (.run n)) landed := by
    intro hturn
    rw [run_of_rest hturn, asks_of_rest hturn, List.append_nil]
    exact ⟨hissued, c, hc, hstage.congr fun hfresh => hfresh⟩
  cases hstage with
  | asking =>
    have hturn : t.turn n = .ask refused := by rw [turn, hc]
    exact ask hs hturn hc hissued .none (Or.inl rfl)
  | again asked older fresh =>
    have hturn : t.turn n = .ask refused := by
      rw [turn, hc]
      rfl
    exact ask hs hturn hc hissued (.superseded asked older) (Or.inr fresh)
  | outrun asked => exact hrest (ha.turn_of_waits (waits_of_caller hc))
  | waits prior asked => exact hrest (ha.turn_of_waits (waits_of_caller hc))
  | @woken _ _ _ _ outcome prior asked newer =>
    have hturn : t.turn n = .finish outcome := by
      rw [turn, hc]
      rfl
    have hran : t.run n = (t.rested n).finish n outcome := by
      simp only [Traffic.run, hturn]
      rfl
    have hnow : (t.run n).callers[n]? = some (.finished outcome) := by
      rw [hran]
      exact (getElem?_set_of_some hc n).trans (if_pos rfl)
    rw [asks_of_finish hturn, List.append_nil]
    refine ⟨?_, _, hnow, .returned prior asked newer⟩
    rw [hran]
    exact hissued
  | answered prior asked => exact hrest (by rw [turn, hc])
  | returned prior asked newer => exact hrest (by rw [turn, hc])
  | cancelled before => exact hrest (by rw [turn, hc])

/-- **Step.**  What a caller asks and what lands for it in an event is added to what is behind it,
and so far it has come then. -/
theorem step (hs : t.Sound) (ha : t.Attached) (h : Rounds refused n t questions landed)
    (e : Event) :
    Rounds refused n (t.step e) (questions ++ t.asks n e) (landed ++ t.landings n e) := by
  by_cases he : e = .run n
  · subst he
    have hnone : t.landings n (.run n) = [] := rfl
    rw [hnone, List.append_nil]
    exact h.run hs ha
  · obtain ⟨hissued, c, hc, hstage⟩ := h
    rw [asks_of_ne he, List.append_nil]
    have hle := (follows_step hs e).issued_le
    refine ⟨by omega, ?_⟩
    -- nobody is ever taken off the list of callers
    have hlt : n < (t.step e).callers.length := by
      have hold := (List.getElem?_eq_some_iff.mp hc).1
      rw [length_step hs]
      omega
    have hafter := List.getElem?_eq_getElem hlt
    refine ⟨_, hafter, ?_⟩
    generalize (t.step e).callers[n] = c' at hafter
    have hcongr : Stage refused (t.step e) c questions landed :=
      hstage.congr fun hfresh => hfresh.step hs hissued e
    -- the turn is somebody else's, so the caller stays, goes away, or is woken
    cases fate_spec hs ha e hafter with
    | same caller =>
      rw [hc] at caller
      cases caller
      rw [landings_of_same (hafter.trans hc.symm), List.append_nil]
      exact hcongr
    | cancelled =>
      have hnone : t.landings n (.cancel n) = [] := rfl
      rw [hnone, List.append_nil]
      exact .cancelled hcongr
    | spawned last =>
      rw [last, List.getElem?_eq_none (Nat.le_refl _)] at hc
      cases hc
    | waits turn => exact absurd rfl he
    | answered turn asked desk => exact absurd rfl he
    | finished turn => exact absurd rfl he
    | @woken place ending named superseded flight outcome caller under sent landed =>
      rw [hc] at caller
      cases caller
      have hlands : t.landings n (.settle place ending) = [(flight.generation, outcome)] := by
        have hwoken : (t.settleAt place ending.result).callers[n]? =
            some (.woken named superseded outcome) := hafter
        simp only [landings, waits_of_caller hc, Caller.isWaiting, under, hwoken]
      rw [hlands]
      -- whether the flight is older than `refused` is what the caller was told when it joined
      have hflag := ha.superseded n named superseded flight hc under
      cases hstage with
      | outrun asked =>
        have holder := Generation.isOlder_eq_true.mp hflag.symm
        exact .again asked holder (.of_woken hs (waits_of_caller hc) hafter)
      | waits prior asked =>
        have hnewer := Generation.isOlder_eq_false.mp hflag.symm
        exact .woken prior asked hnewer

/-- **Run.**  A caller has come as far as the questions and the landings of the whole run say. -/
theorem after (hs : t.Sound) (ha : t.Attached) (h : Rounds refused n t questions landed)
    (es : List Event) : Rounds refused n (t.after es) (questions ++ t.seen (asks n) es)
      (landed ++ t.seen (landings n) es) := by
  induction es generalizing t questions landed with
  | nil =>
    simp only [seen, List.append_nil]
    exact h
  | cons e es ih =>
    have hnext := ih (hs.step e) (ha.step hs e) (h.step hs ha e)
    rw [List.append_assoc, List.append_assoc] at hnext
    exact hnext

end Rounds

/-! ### The main theorem -/

/-- **Nobody asks a third time.**  Take any run over a restored session and a caller that has
just come in it, naming a generation that has been handed out by then.  However the run goes
on:

* the caller comes upon a superseded flight at most once;
* it asks once more than that at most, so twice at most, and is woken by two landings at most;
* if it has returned, then it came upon no superseded flight with its last question, and
  returned the answer to it, or the outcome of a flight that was not superseded. -/
theorem rounds_after (store : Store) (past es : List Event) (n : Nat) (refused : Generation)
    (hcame : ((start (.restore store)).after past).callers[n]? = some (.asking refused))
    (hissued : refused.number ≤ ((start (.restore store)).after past).desk.session.issued) :
    let t := (start (.restore store)).after past
    let questions := t.seen (asks n) es
    let landed := t.seen (landings n) es
    questions.countP (Question.isSuperseded refused) ≤ 1 ∧
    questions.length ≤ questions.countP (Question.isSuperseded refused) + 1 ∧
    questions.length ≤ 2 ∧ landed.length ≤ 2 ∧
    ∀ outcome, (t.after es).callers[n]? = some (.finished outcome) →
      ∃ q, questions.getLast? = some q ∧ q.isSuperseded refused = false ∧
        (q.reply = .answered outcome ∨
          ∃ g, landed.getLast? = some (g, outcome) ∧ refused ≤ g) := by
  intro t questions landed
  have hs₀ : (start (.restore store)).Sound := .start store
  have hs : t.Sound := hs₀.after past
  have ha : t.Attached := (Attached.start _).after hs₀ past
  have hfirst : Rounds refused n t [] [] := ⟨hissued, _, hcame, .asking⟩
  obtain ⟨-, c, hc, hstage⟩ := hfirst.after hs ha es
  rw [List.nil_append, List.nil_append] at hstage
  obtain ⟨hone, htwo, hlanded⟩ := hstage.bounded
  have hquestions : questions.length ≤ 2 := Nat.le_trans htwo (Nat.succ_le_succ hone)
  refine ⟨hone, htwo, hquestions, Nat.le_trans hlanded hquestions, ?_⟩
  intro outcome hdone
  rw [hc] at hdone
  cases hdone
  exact hstage.source

/-- Somebody signs out and in while a flight is under way, and a caller of the new session
comes. -/
def overtaking : List Event :=
  [.signIn ⟨"old", "Bearer", some "more", none⟩, .spawn .first, .run 0, .signOut,
    .signIn ⟨"new", "Bearer", some "more", none⟩, .spawn ⟨2⟩]

/-- This caller joins the flight, asks again once it has landed, and waits for one of its
own. -/
def askingAgain : List Event :=
  [.run 1, .settle 0 (.returned (.ok ⟨"late", "Bearer", some "more", none⟩)), .run 1,
    .settle 0 (.returned (.ok ⟨"newer", "Bearer", some "more", none⟩)), .run 1]

/-- So it asks twice, and returns what its own flight has brought. -/
theorem rounds_after_superseded :
    let t := (start (.restore .inMemory)).after overtaking
    let questions := t.seen (asks 1) askingAgain
    let landed := t.seen (landings 1) askingAgain
    let outcome : Outcome := .ok ⟨"newer", "Bearer", some "more", none⟩
    t.callers[1]? = some (.asking ⟨2⟩) ∧ t.desk.session.issued = 2 ∧
    (t.after askingAgain).callers[1]? = some (.finished outcome) ∧
    questions.length = 2 ∧ questions.countP (Question.isSuperseded ⟨2⟩) ≤ 1 ∧
    ∃ q, questions.getLast? = some q ∧ q.isSuperseded ⟨2⟩ = false ∧
      (q.reply = .answered outcome ∨
        ∃ g, landed.getLast? = some (g, outcome) ∧ (⟨2⟩ : Generation) ≤ g) := by
  have hcame : ((start (.restore .inMemory)).after overtaking).callers[1]? =
      some (.asking ⟨2⟩) := rfl
  have hissued : ((start (.restore .inMemory)).after overtaking).desk.session.issued = 2 := rfl
  have hdone : (((start (.restore .inMemory)).after overtaking).after askingAgain).callers[1]? =
      some (.finished (.ok ⟨"newer", "Bearer", some "more", none⟩)) := rfl
  have hasked :
      (((start (.restore .inMemory)).after overtaking).seen (asks 1) askingAgain).length = 2 := rfl
  obtain ⟨hone, -, -, -, hsource⟩ :=
    rounds_after .inMemory overtaking askingAgain 1 ⟨2⟩ hcame (Nat.le_of_eq hissued.symm)
  exact ⟨hcame, hissued, hdone, hasked, hone, hsource _ hdone⟩

end Traffic

end SessionKeeper
