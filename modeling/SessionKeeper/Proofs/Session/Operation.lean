import Mathlib.Data.List.Induction
import SessionKeeper.Proofs.Session.Coherence
import SessionKeeper.Session.Operation

/-! # What an operation does

An operation either has an effect, which is one of seven, or it comes at the wrong time
and then nothing happens at all (`Session.Ignored`).  `operate_spec` says which of them it
is, with all that must have been so before (`Session.Operated`); whoever reasons about
operations goes by these cases.

A history is taken from its end: what was done last was done to the session that the rest
has left (`after_concat`, `deeds_concat`).

Mathlib gives the induction over a history from its end. -/

namespace SessionKeeper

namespace Session

variable {s s' : Session} {o : Operation} {a : Answer}

/-! ### One operation -/

/-- An operation comes at the wrong time. -/
inductive Ignored (s : Session) : Operation → Answer → Prop where
  /-- The session is not idle. -/
  | startRefresh (state : ∀ g, s.state ≠ .loggedIn g) : Ignored s .startRefresh (.started none)
  /-- The session does not wait for this news, or not any more. -/
  | finishRefresh {g : Generation} {c : Credentials} (state : s.state ≠ .refreshing g) :
      Ignored s (.finishRefresh g c) (.finished none)
  | failRefresh {g : Generation} (state : s.state ≠ .refreshing g) :
      Ignored s (.failRefresh g) (.failed false)
  /-- Somebody is signed in, or has claimed the prompt before. -/
  | claimPrompt (taken : s.state ≠ .loggedOut ∨ s.prompted = true) :
      Ignored s .claimPrompt (.claimed false)

/-- What an operation comes to, with the session after it. -/
inductive Operated (s : Session) : Operation → Answer → Session → Prop where
  | signedIn (c : Credentials) :
      Operated s (.signIn c) (.signedIn s.nextGeneration) (s.signIn c).2
  | started {g : Generation} (state : s.state = .loggedIn g) :
      Operated s .startRefresh (.started (some g)) (s.publish (.refreshing g))
  | replaced {g : Generation} {c : Credentials} (state : s.state = .refreshing g) :
      Operated s (.finishRefresh g c) (.finished (some ⟨s.nextGeneration, s.replacement c⟩))
        (s.replaced c)
  | failed {g : Generation} (state : s.state = .refreshing g) :
      Operated s (.failRefresh g) (.failed true) s.ended
  | signedOut (state : s.state ≠ .loggedOut) : Operated s .signOut (.signedOut true) s.ended
  /-- Nobody was signed in; the record is removed all the same. -/
  | cleared (state : s.state = .loggedOut) : Operated s .signOut (.signedOut false) s.cleared
  | claimed (state : s.state = .loggedOut) (free : s.prompted = false) :
      Operated s .claimPrompt (.claimed true) { s with prompted := true }
  | ignored {o : Operation} {a : Answer} (ignored : Ignored s o a) : Operated s o a s

theorem startRefresh_of_ne (h : ∀ g, s.state ≠ .loggedIn g) : s.startRefresh = (none, s) := by
  unfold startRefresh
  split
  · next g hg => exact absurd hg (h g)
  · rfl

theorem isLoggedIn_eq_true_iff : s.isLoggedIn = true ↔ s.state ≠ .loggedOut := by
  unfold isLoggedIn
  cases s.state <;> simp [State.isLoggedIn]

/-- **Every operation comes to one of these.** -/
theorem operate_spec (s : Session) (o : Operation) :
    Operated s o (s.operate o).1 (s.operate o).2 := by
  match o with
  | .signIn c => exact .signedIn c
  | .startRefresh =>
    by_cases h : ∃ g, s.state = .loggedIn g
    · obtain ⟨g, hg⟩ := h
      simp only [operate, startRefresh_of_loggedIn hg]
      exact .started hg
    · have hother : ∀ g, s.state ≠ .loggedIn g := not_exists.mp h
      simp only [operate, startRefresh_of_ne hother]
      exact .ignored (.startRefresh hother)
  | .finishRefresh g c =>
    by_cases h : s.state = .refreshing g
    · simp only [operate, finishRefresh_of_refreshing c h]
      exact .replaced h
    · simp only [operate, finishRefresh_of_ne c h]
      exact .ignored (.finishRefresh h)
  | .failRefresh g =>
    by_cases h : s.state = .refreshing g
    · simp only [operate, failRefresh_of_refreshing h]
      exact .failed h
    · simp only [operate, failRefresh_of_ne h]
      exact .ignored (.failRefresh h)
  | .signOut =>
    by_cases h : s.isLoggedIn = true
    · simp only [operate, signOut, if_pos h]
      exact .signedOut (isLoggedIn_eq_true_iff.mp h)
    · have hout : s.state = .loggedOut := by
        by_contra hne
        exact h (isLoggedIn_eq_true_iff.mpr hne)
      simp only [operate, signOut, if_neg h]
      exact .cleared hout
  | .claimPrompt =>
    by_cases h : (s.isLoggedIn || s.prompted) = true
    · simp only [operate, claimPrompt, if_pos h]
      rw [Bool.or_eq_true, isLoggedIn_eq_true_iff] at h
      exact .ignored (.claimPrompt h)
    · simp only [operate, claimPrompt, if_neg h]
      rw [Bool.or_eq_true, isLoggedIn_eq_true_iff, not_or, not_not] at h
      exact .claimed h.1 (Bool.eq_false_iff.mpr h.2)

namespace Operated

/-- Nothing else can come of the operation. -/
theorem eq (h : Operated s o a s') : s.operate o = (a, s') := by
  cases h with
  | signedIn c => rfl
  | started state => simp only [operate, startRefresh_of_loggedIn state]
  | replaced state => simp only [operate, finishRefresh_of_refreshing _ state]
  | failed state => simp only [operate, failRefresh_of_refreshing state]
  | signedOut state =>
    have hin : s.isLoggedIn = true := isLoggedIn_eq_true_iff.mpr state
    simp only [operate, signOut, if_pos hin]
  | cleared state =>
    have hout : s.isLoggedIn = false := by rw [isLoggedIn, state]; rfl
    simp [operate, signOut, hout]
  | claimed state free =>
    have hout : s.isLoggedIn = false := by rw [isLoggedIn, state]; rfl
    simp [operate, claimPrompt, hout, free]
  | ignored ignored =>
    cases ignored with
    | startRefresh state => simp only [operate, startRefresh_of_ne state]
    | finishRefresh state => simp only [operate, finishRefresh_of_ne _ state]
    | failRefresh state => simp only [operate, failRefresh_of_ne state]
    | claimPrompt taken =>
      rw [← isLoggedIn_eq_true_iff, ← Bool.or_eq_true] at taken
      simp only [operate, claimPrompt, if_pos taken]

theorem coherent (h : Operated s o a s') (hs : s.Coherent) : s'.Coherent := by
  cases h with
  | signedIn c => exact .signIn s c
  | started state => exact hs.startRefresh state
  | replaced state => exact .replaced s _
  | failed state => exact .ended s
  | signedOut state => exact .ended s
  | cleared state =>
    have hcurrent := hs.current_of_loggedOut state
    exact hs.congr rfl hcurrent.symm rfl
  | claimed state free => exact hs.congr rfl rfl rfl
  | ignored ignored => exact hs

/-- A session only ever moves on. -/
theorem follows (h : Operated s o a s') : s.Follows s' := by
  cases h with
  | signedIn c => exact .signIn s c
  | started state => exact .startRefresh s _
  | replaced state => exact .replaced s _
  | failed state => exact .ended s
  | signedOut state => exact .ended s
  | cleared state => exact .of_loggedOut rfl rfl state
  | claimed state free => exact .of_same rfl rfl fun _ hg => hg
  | ignored ignored => exact .refl s

end Operated

/-! ### Histories -/

variable (s : Session) (fails : Nat → Bool) (os : List Operation) (o : Operation)

/-- The session that the next operation meets. -/
def next : Session :=
  (s.after fails os).whileFailing (fails os.length)

theorem after_cons : s.after fails (o :: os) =
    ((s.whileFailing (fails 0)).operate o).2.after (fun n => fails (n + 1)) os := rfl

theorem deeds_cons : s.deeds fails (o :: os) = ⟨o, ((s.whileFailing (fails 0)).operate o).1⟩ ::
    ((s.whileFailing (fails 0)).operate o).2.deeds (fun n => fails (n + 1)) os := rfl

theorem after_concat : s.after fails (os ++ [o]) = ((s.next fails os).operate o).2 := by
  induction os generalizing s fails with
  | nil => rfl
  | cons first os ih =>
    rw [List.cons_append, after_cons, ih]
    rfl

theorem deeds_concat : s.deeds fails (os ++ [o]) =
    s.deeds fails os ++ [⟨o, ((s.next fails os).operate o).1⟩] := by
  induction os generalizing s fails with
  | nil => rfl
  | cons first os ih =>
    rw [List.cons_append, deeds_cons, ih]
    rfl

variable {s}

/-- **Run.**  A history leaves the parts of a session in agreement. -/
theorem Coherent.after (h : s.Coherent) : (s.after fails os).Coherent := by
  induction os using List.reverseRecOn with
  | nil => exact h
  | append_singleton os o ih =>
    have hnext : (s.next fails os).Coherent := ih.congr rfl rfl rfl
    rw [after_concat]
    exact (operate_spec _ o).coherent hnext

end Session

end SessionKeeper
