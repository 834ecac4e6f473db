import SessionKeeper.Proofs.Lists
import SessionKeeper.Proofs.Session.Consistency
import SessionKeeper.Session.Watching

/-! # Watchers see every change, and only changes

An operation publishes the state exactly if it has changed it (`Operated.watch`).  The
argument is about the sign-in, which always publishes: the generation that it hands out is
newer than the one in use, so the state that it leaves is a new one also where somebody was
signed in before.

A watcher knows how much was published when it last looked.  So it has news exactly if the
state was changed since then, even where it was changed back (`Watched.Heard`), and this is
kept by whatever else happens, above all by what the other watchers do.

Mathlib gives the induction over a history from its end. -/

namespace SessionKeeper

namespace Session

variable {s s' : Session} {o : Operation} {a : Answer}

/-! ### What an operation publishes -/

theorem Consistent.whileFailing (h : s.Consistent) (fails : Bool) :
    (s.whileFailing fails).Consistent := by
  refine ⟨?_, h.last, h.prompted, h.published⟩
  exact h.toCoherent.congr rfl rfl rfl

/-- The generation that is handed out next is not in use. -/
theorem Consistent.nextGeneration_ne (h : s.Consistent) :
    s.state ≠ .loggedIn s.nextGeneration := by
  intro hstate
  have hlast : s.lastIssued = some s.nextGeneration := by
    apply h.last
    rw [hstate]
    rfl
  have hnumber : s.nextGeneration.number = s.issued + 1 := s.nextGeneration_number
  have hissued : s.issued = s.nextGeneration.number := by
    unfold issued
    rw [hlast]
  omega

/-- **An operation publishes the state exactly if it has changed it.** -/
theorem Operated.watch (h : Operated s o a s') (hs : s.Consistent) :
    s'.watch = if s'.state = s.state then s.watch else ⟨s'.state, s.watch.version + 1⟩ := by
  cases h with
  | signedIn c =>
    have hne : (s.signIn c).2.state ≠ s.state := by
      intro heq
      exact hs.nextGeneration_ne heq.symm
    rw [if_neg hne]
    rfl
  | @started g state =>
    have hne : (s.publish (.refreshing g)).state ≠ s.state := by
      rw [publish_state, state]
      nofun
    rw [if_neg hne]
    rfl
  | @replaced g c state =>
    have hne : (s.replaced c).state ≠ s.state := by
      rw [replaced_state, state]
      nofun
    rw [if_neg hne]
    rfl
  | failed state =>
    have hne : s.ended.state ≠ s.state := by
      rw [ended_state, state]
      nofun
    rw [if_neg hne]
    rfl
  | signedOut state =>
    have hne : s.ended.state ≠ s.state := by
      rw [ended_state]
      exact Ne.symm state
    rw [if_neg hne]
    rfl
  -- the others leave the state alone, and what was published with it
  | cleared state => exact (if_pos rfl).symm
  | claimed state free => exact (if_pos rfl).symm
  | ignored ignored => exact (if_pos rfl).symm

/-- An operation to which the session has nothing to do. -/
inductive Idle (s : Session) : Operation → Prop where
  | signOut (state : s.state = .loggedOut) : Idle s .signOut
  | startRefresh (state : ∀ g, s.state ≠ .loggedIn g) : Idle s .startRefresh
  /-- The news is stale. -/
  | report {o : Operation} {g : Generation} (reports : o.reports? = some g)
      (state : s.state ≠ .refreshing g) : Idle s o
  | claimPrompt : Idle s .claimPrompt

theorem Operated.state_of_idle (h : Operated s o a s') (hidle : Idle s o) :
    s'.state = s.state := by
  cases h with
  | signedIn c =>
    cases hidle with
    | report reports state => cases reports
  | started state =>
    cases hidle with
    | startRefresh hno => exact absurd state (hno _)
    | report reports hno => cases reports
  | replaced state =>
    cases hidle with
    | report reports hno =>
      cases reports
      exact absurd state hno
  | failed state =>
    cases hidle with
    | report reports hno =>
      cases reports
      exact absurd state hno
  | signedOut state =>
    cases hidle with
    | signOut hout => exact absurd hout state
    | report reports hno => cases reports
  | cleared state => rfl
  | claimed state free => rfl
  | ignored ignored => rfl

namespace Watched

variable {w : Watched} {es : List Occurrence} {n : Nat}

/-! ### One thing after another -/

theorem after_concat (w : Watched) (es : List Occurrence) (e : Occurrence) :
    w.after (es ++ [e]) = (w.after es).step e := by
  unfold after
  rw [List.foldl_append]
  rfl

theorem consistent (store : Store) (es : List Occurrence) :
    ((restore store).after es).session.Consistent := by
  induction es using List.reverseRecOn with
  | nil => exact Consistent.restore store
  | append_singleton es e ih =>
    rw [after_concat]
    cases e with
    | operate o fails => exact (ih.whileFailing fails).operated (operate_spec _ o)
    | subscribe => exact ih
    | poll n => exact ih

/-- The session is left alone by all but operations. -/
theorem session_of_not_operate {store : Store} {e : Occurrence}
    (he : ∀ o fails, e ≠ .operate o fails) :
    ((restore store).after (es ++ [e])).session = ((restore store).after es).session := by
  rw [after_concat]
  cases e with
  | operate o fails => exact absurd rfl (he o fails)
  | subscribe => rfl
  | poll n => rfl

/-- An operation publishes the state of a watched session exactly if it has changed it. -/
theorem watch_operate (store : Store) (es : List Occurrence) (o : Operation) (fails : Bool) :
    let s := ((restore store).after es).session
    let s' := ((restore store).after (es ++ [.operate o fails])).session
    s'.watch = if s'.state = s.state then s.watch else ⟨s'.state, s.watch.version + 1⟩ := by
  intro s s'
  have hs : s.Consistent := consistent store es
  have hs' : s' = ((s.whileFailing fails).operate o).2 := by
    show ((restore store).after (es ++ [.operate o fails])).session = _
    rw [after_concat]
    rfl
  rw [hs']
  exact (operate_spec _ o).watch (hs.whileFailing fails)

/-- There are as many watchers as have come. -/
theorem length_receivers (store : Store) (es : List Occurrence) :
    ((restore store).after es).receivers.length = es.count .subscribe := by
  induction es using List.reverseRecOn with
  | nil => rfl
  | append_singleton es e ih =>
    rw [after_concat, List.count_append]
    cases e with
    | operate o fails => exact ih
    | subscribe =>
      show (((restore store).after es).receivers ++ [_]).length = _
      rw [List.length_append, ih]
      rfl
    | poll n =>
      show (((restore store).after es).receivers.modify n _).length = _
      rw [List.length_modify]
      exact ih

/-! ### What a watcher has not seen -/

/-- The state was changed since the `n`-th watcher came or last asked. -/
def News (store : Store) (es : List Occurrence) (n : Nat) : Prop :=
  ∃ before o fails behind, es = before ++ .operate o fails :: behind ∧
    n < before.count .subscribe ∧ .poll n ∉ behind ∧
    ((restore store).after (before ++ [.operate o fails])).session.state ≠
      ((restore store).after before).session.state

variable {store : Store}

/-- A change is news to all who watch. -/
theorem news_operate (o : Operation) (fails : Bool) :
    News store (es ++ [.operate o fails]) n ↔ News store es n ∨
      n < es.count .subscribe ∧
        ((restore store).after (es ++ [.operate o fails])).session.state ≠
          ((restore store).after es).session.state := by
  constructor
  · rintro ⟨before, o', fails', behind, hsplit, hcame, hquiet, hchange⟩
    rcases concat_eq_append_cons_iff.mp hsplit with ⟨rfl, heq, rfl⟩ | ⟨behind', rfl, rfl⟩
    · cases heq
      exact Or.inr ⟨hcame, hchange⟩
    · left
      refine ⟨before, o', fails', behind', rfl, hcame, ?_, hchange⟩
      intro hpoll
      exact hquiet (List.mem_append_left _ hpoll)
  · rintro (⟨before, o', fails', behind, rfl, hcame, hquiet, hchange⟩ | ⟨hcame, hchange⟩)
    · refine ⟨before, o', fails', behind ++ [.operate o fails], by simp, hcame, ?_, hchange⟩
      intro hpoll
      rcases List.mem_append.mp hpoll with hpoll | hlast
      · exact hquiet hpoll
      · cases List.mem_singleton.mp hlast
    · exact ⟨es, o, fails, [], rfl, hcame, List.not_mem_nil, hchange⟩

/-- What else happens is no news, and it is no longer news to one who asks. -/
theorem news_of_not_operate {e : Occurrence} (he : ∀ o fails, e ≠ .operate o fails) :
    News store (es ++ [e]) n ↔ News store es n ∧ e ≠ .poll n := by
  constructor
  · rintro ⟨before, o', fails', behind, hsplit, hcame, hquiet, hchange⟩
    rcases concat_eq_append_cons_iff.mp hsplit with ⟨-, heq, -⟩ | ⟨behind', rfl, rfl⟩
    · exact absurd heq (he o' fails')
    · refine ⟨⟨before, o', fails', behind', rfl, hcame, ?_, hchange⟩, ?_⟩
      · intro hpoll
        exact hquiet (List.mem_append_left _ hpoll)
      · intro heq
        apply hquiet
        rw [heq]
        exact List.mem_append_right _ List.mem_cons_self
  · rintro ⟨⟨before, o', fails', behind, rfl, hcame, hquiet, hchange⟩, hother⟩
    refine ⟨before, o', fails', behind ++ [e], by simp, hcame, ?_, hchange⟩
    intro hpoll
    rcases List.mem_append.mp hpoll with hpoll | hlast
    · exact hquiet hpoll
    · exact hother (List.mem_singleton.mp hlast).symm

/-- What the `n`-th watcher has seen is what was published when it came or last asked. -/
structure Heard (store : Store) (es : List Occurrence) (n : Nat) (r : Receiver) : Prop where
  le : r.seen ≤ ((restore store).after es).session.watch.version
  news : r.seen ≠ ((restore store).after es).session.watch.version ↔ News store es n

/-- **Step.**  An operation leaves a watcher with what it has seen. -/
theorem Heard.operate {r : Receiver} (h : Heard store es n r) (hcame : n < es.count .subscribe)
    (o : Operation) (fails : Bool) : Heard store (es ++ [.operate o fails]) n r := by
  have hwatch := watch_operate store es o fails
  dsimp only at hwatch
  have hle := h.le
  by_cases hsame : ((restore store).after (es ++ [.operate o fails])).session.state =
      ((restore store).after es).session.state
  · rw [if_pos hsame] at hwatch
    refine ⟨by rw [hwatch]; exact hle, ?_⟩
    rw [hwatch, news_operate, h.news]
    constructor
    · intro hnews
      exact Or.inl hnews
    · rintro (hnews | ⟨-, hchange⟩)
      · exact hnews
      · exact absurd hsame hchange
  · -- a version that nobody has seen
    rw [if_neg hsame] at hwatch
    refine ⟨by rw [hwatch]; exact Nat.le_succ_of_le hle, ?_⟩
    rw [hwatch, news_operate]
    constructor
    · intro _
      exact Or.inr ⟨hcame, hsame⟩
    · intro _
      show r.seen ≠ _ + 1
      omega

/-- **Step.**  Whatever else happens leaves a watcher with what it has seen, if it does not
ask. -/
theorem Heard.stays {r : Receiver} (h : Heard store es n r) {e : Occurrence}
    (he : ∀ o fails, e ≠ .operate o fails) (hother : e ≠ .poll n) :
    Heard store (es ++ [e]) n r := by
  have hsession : ((restore store).after (es ++ [e])).session =
      ((restore store).after es).session := session_of_not_operate he
  constructor
  · rw [hsession]
    exact h.le
  · rw [hsession, h.news, news_of_not_operate he]
    exact (and_iff_left hother).symm

/-- A watcher that looks now has seen everything. -/
theorem Heard.of_not_news (h : ¬ News store es n) :
    Heard store es n ((restore store).after es).session.subscribe := by
  constructor
  · exact Nat.le_refl _
  · constructor
    · intro hne
      exact absurd rfl hne
    · intro hnews
      exact absurd hnews h

/-- Nothing is news to a watcher that has not come. -/
theorem not_news_of_le (h : es.count .subscribe ≤ n) : ¬ News store es n := by
  rintro ⟨before, o, fails, behind, rfl, hcame, -⟩
  rw [List.count_append] at h
  omega

/-- **Run.**  Every watcher has heard of what was published until it came or last asked. -/
theorem heard_after (store : Store) (es : List Occurrence) {n : Nat} {r : Receiver}
    (h : ((restore store).after es).receivers[n]? = some r) : Heard store es n r := by
  induction es using List.reverseRecOn generalizing n r with
  | nil => cases h
  | append_singleton es e ih =>
    have hlength := length_receivers store es
    rw [after_concat] at h
    cases e with
    | operate o fails =>
      have hbefore : ((restore store).after es).receivers[n]? = some r := h
      obtain ⟨hn, -⟩ := List.getElem?_eq_some_iff.mp hbefore
      exact (ih hbefore).operate (by omega) o fails
    | subscribe =>
      have he : ∀ o fails, Occurrence.subscribe ≠ .operate o fails := by
        intro o fails heq
        cases heq
      have hreceivers : (((restore store).after es).receivers ++
          [((restore store).after es).session.subscribe])[n]? = some r := h
      by_cases hold : n < ((restore store).after es).receivers.length
      · rw [List.getElem?_append_left hold] at hreceivers
        apply (ih hreceivers).stays he
        intro heq
        cases heq
      · -- the watcher has just come, and nothing was changed since
        rw [List.getElem?_append_right (Nat.le_of_not_lt hold),
          List.getElem?_singleton] at hreceivers
        split at hreceivers
        · cases hreceivers
          rw [← session_of_not_operate he]
          apply Heard.of_not_news
          rw [news_of_not_operate he]
          rintro ⟨hnews, -⟩
          exact not_news_of_le (by omega) hnews
        · cases hreceivers
    | poll m =>
      have he : ∀ o fails, Occurrence.poll m ≠ .operate o fails := by
        intro o fails heq
        cases heq
      have hreceivers : (((restore store).after es).receivers.modify m fun r =>
          (((restore store).after es).session.poll r).2)[n]? = some r := h
      rw [List.getElem?_modify, Option.map_eq_map, Option.map_eq_some_iff] at hreceivers
      obtain ⟨before, hbefore, hr⟩ := hreceivers
      by_cases hm : m = n
      · -- it has just asked, so it has seen everything
        rw [if_pos hm] at hr
        rw [← hr]
        show Heard store _ n ((restore store).after es).session.subscribe
        rw [← session_of_not_operate he]
        apply Heard.of_not_news
        rw [news_of_not_operate he, hm]
        rintro ⟨-, hne⟩
        exact hne rfl
      · rw [if_neg hm] at hr
        rw [← hr]
        apply (ih hbefore).stays he
        intro heq
        cases heq
        exact hm rfl

/-! ### The main theorem -/

/-- **Watchers see every change, and only changes.**  Restore a session from any store, and
let anything happen to it, while any of the writes fail and any number of watchers come and
ask at any time.

* Every watcher that asks is shown the state of the session; and it has news exactly if,
  since it came or last asked, an operation has left the state different from what it was
  before that operation, even if the state is the old one again.
* An operation that changes the state publishes the new one.  One that does not change it
  publishes nothing.
* Such are the operations to which the session has nothing to do: a sign-out when nobody is
  signed in, the start of a refresh when the session is not idle, a stale report on a
  refresh, and a claim of the prompt. -/
theorem news_iff_changed (store : Store) (es : List Occurrence) :
    let now (es : List Occurrence) : Session := ((restore store).after es).session
    (∀ n < es.count .subscribe, ∃ notice, ((restore store).after es).notice? n = some notice ∧
      notice.state = (now es).state ∧
      (notice.changed = true ↔ ∃ before o fails behind,
        es = before ++ .operate o fails :: behind ∧ n < before.count .subscribe ∧
        .poll n ∉ behind ∧ (now (before ++ [.operate o fails])).state ≠ (now before).state)) ∧
    (∀ o fails, (now (es ++ [.operate o fails])).watch =
      if (now (es ++ [.operate o fails])).state = (now es).state then (now es).watch
      else ⟨(now (es ++ [.operate o fails])).state, (now es).watch.version + 1⟩) ∧
    ∀ o fails, Idle (now es) o → (now (es ++ [.operate o fails])).watch = (now es).watch := by
  intro now
  have hwatch : ∀ o fails, (now (es ++ [.operate o fails])).watch =
      if (now (es ++ [.operate o fails])).state = (now es).state then (now es).watch
      else ⟨(now (es ++ [.operate o fails])).state, (now es).watch.version + 1⟩ := by
    intro o fails
    exact watch_operate store es o fails
  refine ⟨?_, hwatch, ?_⟩
  · intro n hn
    rw [← length_receivers store es] at hn
    have hreceiver : ((restore store).after es).receivers[n]? =
        some (((restore store).after es).receivers[n]) := List.getElem?_eq_getElem hn
    have hheard := heard_after store es hreceiver
    refine ⟨_, by unfold notice?; rw [hreceiver]; rfl, ?_, ?_⟩
    · exact (consistent store es).published
    · show decide _ = true ↔ _
      rw [decide_eq_true_iff]
      exact hheard.news
  · intro o fails hidle
    have hstate : (now (es ++ [.operate o fails])).state = (now es).state := by
      show ((restore store).after (es ++ [.operate o fails])).session.state = _
      rw [after_concat]
      have hidle' : Idle ((now es).whileFailing fails) o := by
        cases hidle with
        | signOut state => exact .signOut state
        | startRefresh state => exact .startRefresh state
        | report reports state => exact .report reports state
        | claimPrompt => exact .claimPrompt
      exact (operate_spec _ o).state_of_idle hidle'
    rw [hwatch, if_pos hstate]

/-- Somebody signs in and out again while the second of two watchers does not look: it has
news, though it is shown the state that it has seen before. -/
theorem news_iff_changed_back :
    let es : List Occurrence := [.subscribe, .subscribe,
      .operate (.signIn { accessToken := "a", tokenType := "Bearer" }) false, .poll 0,
      .operate .signOut true]
    1 < es.count .subscribe ∧
      ((restore .inMemory).after es).notice? 1 = some ⟨true, .loggedOut⟩ := by
  intro es
  have hcame : 1 < es.count .subscribe := by decide
  obtain ⟨⟨changed, state⟩, hnotice, hstate, hchanged⟩ :=
    (news_iff_changed .inMemory es).1 1 hcame
  have hout : state = .loggedOut := hstate
  have hnews : changed = true := by
    apply hchanged.mpr
    refine ⟨[.subscribe, .subscribe], _, _, [.poll 0, .operate .signOut true], rfl, ?_, ?_, ?_⟩
    · decide
    · decide
    · nofun
  rw [hout, hnews] at hnotice
  exact ⟨hcame, hnotice⟩

end Watched

end Session

end SessionKeeper
