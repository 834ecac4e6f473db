import SessionKeeper.Proofs.Credential.Store
import SessionKeeper.Proofs.Session.Operation

/-! # A session does not hang on its store

A session reads its store once, when it is restored.  After that it only writes it, and
goes on in the same way whether or not a write has failed.  So two histories of the same
operations, in which different writes fail, cannot be told apart by anybody who looks at
the sessions: they answer alike, and are alike but for their stores (`Session.Alike`).

What the store has in the end is what was written last without failing
(`Session.text?_after`).

No more of Mathlib than the imports bring. -/

namespace SessionKeeper

namespace Session

variable {s s' : Session} {o : Operation} {a : Answer}

/-! ### Sessions that differ in their stores only -/

/-- Two sessions are the same but for their stores. -/
structure Alike (s s' : Session) : Prop where
  state : s'.state = s.state
  current : s'.current = s.current
  lastIssued : s'.lastIssued = s.lastIssued
  prompted : s'.prompted = s.prompted
  watch : s'.watch = s.watch

/-- What an operation comes to does not hang on the store, whatever becomes of that. -/
theorem Operated.withStore (h : Operated s o a s') (store : Store) :
    ∃ store', Operated { s with store } o a { s' with store := store' } := by
  cases h with
  | signedIn c => exact ⟨_, .signedIn c⟩
  | started state => exact ⟨_, .started state⟩
  | replaced state => exact ⟨_, .replaced state⟩
  | failed state => exact ⟨_, .failed state⟩
  | signedOut state => exact ⟨_, .signedOut state⟩
  | cleared state => exact ⟨_, .cleared state⟩
  | claimed state free => exact ⟨_, .claimed state free⟩
  | ignored ignored =>
    refine ⟨_, .ignored ?_⟩
    cases ignored with
    | startRefresh state => exact .startRefresh state
    | finishRefresh state => exact .finishRefresh state
    | failRefresh state => exact .failRefresh state
    | claimPrompt taken => exact .claimPrompt taken

namespace Alike

theorem refl (s : Session) : s.Alike s :=
  ⟨rfl, rfl, rfl, rfl, rfl⟩

theorem withStore (s : Session) (store : Store) : s.Alike { s with store } :=
  ⟨rfl, rfl, rfl, rfl, rfl⟩

/-- One of them with the store of the other is the other. -/
theorem eq (h : s.Alike s') : s' = { s with store := s'.store } := by
  obtain ⟨hstate, hcurrent, hlast, hprompted, hwatch⟩ := h
  rw [← hstate, ← hcurrent, ← hlast, ← hprompted, ← hwatch]

/-- **Step.**  Whatever is done with two sessions that are alike, they answer alike and stay
alike. -/
theorem operate (h : s.Alike s') (o : Operation) :
    (s'.operate o).1 = (s.operate o).1 ∧ (s.operate o).2.Alike (s'.operate o).2 := by
  -- `s'` is `s` with another store, so the same case of the operation applies to both
  obtain ⟨store, hother⟩ := (operate_spec s o).withStore s'.store
  rw [h.eq, hother.eq]
  exact ⟨rfl, withStore _ store⟩

/-- **Run.**  Two histories of the same operations answer alike, and leave sessions that
are alike, whichever of the writes have failed. -/
theorem after (h : s.Alike s') (fails fails' : Nat → Bool) (os : List Operation) :
    s'.deeds fails' os = s.deeds fails os ∧ (s.after fails os).Alike (s'.after fails' os) := by
  induction os generalizing s s' fails fails' with
  | nil => exact ⟨rfl, h⟩
  | cons o os ih =>
    have hfailing : (s.whileFailing (fails 0)).Alike (s'.whileFailing (fails' 0)) :=
      ⟨h.state, h.current, h.lastIssued, h.prompted, h.watch⟩
    obtain ⟨hanswer, hstep⟩ := hfailing.operate o
    obtain ⟨hdeeds, hafter⟩ := ih hstep (fun n => fails (n + 1)) (fun n => fails' (n + 1))
    refine ⟨?_, hafter⟩
    rw [deeds_cons, deeds_cons, hanswer, hdeeds]

end Alike

/-! ### What is written -/

/-- What was written by some deeds, the oldest first: credentials, or nothing in their
place.  `fails n` tells whether the write of the `n`-th of them has failed. -/
def written (fails : Nat → Bool) : List Deed → List (Option Credentials)
  | [] => []
  | d :: ds => (if fails 0 then [] else d.writes?.toList) ++ written (fun n => fails (n + 1)) ds

theorem written_concat (fails : Nat → Bool) (ds : List Deed) (d : Deed) :
    written fails (ds ++ [d]) =
      written fails ds ++ if fails ds.length then [] else d.writes?.toList := by
  induction ds generalizing fails with
  | nil => exact List.append_nil _
  | cons first ds ih =>
    show _ ++ written _ (ds ++ [d]) = _
    rw [ih, ← List.append_assoc]
    rfl

/-- The record that is left of another one by what was written. -/
def recordAfter (record : Option String) (writes : List (Option Credentials)) : Option String :=
  match writes.getLast? with
  | some kept => kept.map (·.record)
  | none => record

theorem length_deeds (s : Session) (fails : Nat → Bool) (os : List Operation) :
    (s.deeds fails os).length = os.length := by
  induction os generalizing s fails with
  | nil => rfl
  | cons o os ih => exact congrArg Nat.succ (ih _ _)

/-- **Step.**  An operation attempts to write what its answer says, and nothing else. -/
theorem Operated.store (h : Operated s o a s') :
    s'.store = match (⟨o, a⟩ : Deed).writes? with
      | some kept => s.store.attempt (s.store.write kept)
      | none => s.store := by
  cases h with
  | ignored ignored => cases ignored <;> rfl
  | signedIn | started | replaced | failed | signedOut | cleared | claimed => rfl

/-- **Run.**  The record is what was written last without failing. -/
theorem text?_after (s : Session) (fails : Nat → Bool) (os : List Operation) :
    (s.after fails os).store.text? = recordAfter s.store.text?
        (written (fun n => fails n || !s.store.backing.isWritable) (s.deeds fails os)) ∧
      (s.after fails os).store.backing.isWritable = s.store.backing.isWritable := by
  induction os using List.reverseRecOn with
  | nil => exact ⟨rfl, rfl⟩
  | append_singleton os o ih =>
    obtain ⟨htext, hwritable⟩ := ih
    -- a write fails because it is made to, or because there is no table to write to
    have hfails : (s.next fails os).store.fails =
        (fails os.length || !s.store.backing.isWritable) := by
      rw [← hwritable]
      rfl
    have hstore := (operate_spec (s.next fails os) o).store
    rw [after_concat, deeds_concat, written_concat, length_deeds, hstore]
    cases (⟨o, ((s.next fails os).operate o).1⟩ : Deed).writes? with
    | none =>
      refine ⟨?_, hwritable⟩
      rw [Option.toList_none, ite_self, List.append_nil]
      exact htext
    | some kept =>
      obtain ⟨hrecord, hkind⟩ := (s.next fails os).store.attempt_write kept
      refine ⟨?_, hkind.trans hwritable⟩
      show ((s.next fails os).store.attempt _).text? = _
      rw [hrecord, hfails]
      by_cases hfailed : (fails os.length || !s.store.backing.isWritable) = true
      · -- the write fails, and the record stays
        rw [if_pos hfailed, if_pos hfailed, List.append_nil]
        exact htext
      · rw [if_neg hfailed, if_neg hfailed]
        unfold recordAfter
        rw [Option.toList_some, List.getLast?_concat]

/-! ### The main theorem -/

/-- **Writes that fail are not noticed.**  Restore a session from any store, and do with it
whatever you like, twice: the same things, but different writes fail.

* All that was done is answered alike, and the sessions are alike in the end: in their
  states, their credentials, the newest generation, the claim of the prompt, and what was
  published.
* The record in the store is that of the credentials that were written last, or there is
  none if the record was removed last, among the writes that have not failed; if there is
  no such write it is the record of the beginning.  (In a database without a proper table
  every write fails.) -/
theorem failures_unnoticed (store : Store) (fails fails' : Nat → Bool) (os : List Operation) :
    let s₀ := restore store
    s₀.deeds fails' os = s₀.deeds fails os ∧
    (s₀.after fails os).Alike (s₀.after fails' os) ∧
    (s₀.after fails os).store.text? = recordAfter store.text?
      (written (fun n => fails n || !store.backing.isWritable) (s₀.deeds fails os)) := by
  intro s₀
  have hstore : s₀.store = store := restore_store store
  obtain ⟨hdeeds, halike⟩ := (Alike.refl s₀).after fails fails' os
  have htext := (text?_after s₀ fails os).1
  rw [hstore] at htext
  exact ⟨hdeeds, halike, htext⟩

end Session

end SessionKeeper
