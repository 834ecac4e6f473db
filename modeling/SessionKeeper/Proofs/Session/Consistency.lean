import SessionKeeper.Proofs.Session.Operation

/-! # The parts of a session agree

A session has five parts beside its store: the state, the credentials, the newest
generation, the claim of the sign-in prompt, and what was published last.  Six operations
change them, each some of them.  After any history, whatever its operations and whichever
writes have failed, they fit together (`Session.Consistent`).

The generations that a session hands out are 1, 2, 3 and so on.  None is left out and none
comes twice, since only a sign-in and a refresh that ends well take the next one
(`Operated.issued`).

No more of Mathlib than the imports bring. -/

namespace SessionKeeper

namespace Session

/-- The parts of a session agree. -/
structure Consistent (s : Session) : Prop extends Coherent s where
  /-- What is in use was handed out last. -/
  last : ∀ g, s.state.generation? = some g → s.lastIssued = some g
  /-- The prompt is claimed only while nobody is signed in. -/
  prompted : s.prompted = true → s.state = .loggedOut
  published : s.watch.value = s.state

variable {s s' : Session} {o : Operation} {a : Answer}

/-! ### Each operation keeps them in agreement -/

namespace Consistent

theorem restore (store : Store) : (Session.restore store).Consistent := by
  have hcoherent : (Session.restore store).Coherent := .restore store
  revert hcoherent
  unfold Session.restore
  split
  · intro hcoherent
    refine ⟨hcoherent, ?_, ?_, rfl⟩
    · intro g hg
      exact hg
    · intro hprompted
      cases hprompted
  · intro hcoherent
    refine ⟨hcoherent, ?_, ?_, rfl⟩
    · intro g hg
      cases hg
    · intro _
      rfl

/-- While somebody is signed in, nobody has claimed the prompt. -/
theorem free (h : s.Consistent) (hin : s.state ≠ .loggedOut) : s.prompted = false := by
  rw [Bool.eq_false_iff]
  intro hprompted
  exact hin (h.prompted hprompted)

/-- Credentials under a new generation are in use, and the prompt is free. -/
theorem of_loggedIn (hs : s'.Coherent) {g : Generation} (hstate : s'.state = .loggedIn g)
    (hlast : s'.lastIssued = some g) (hfree : s'.prompted = false)
    (hpublished : s'.watch.value = s'.state) : s'.Consistent := by
  refine ⟨hs, ?_, ?_, hpublished⟩
  · intro g' hg'
    rw [hstate] at hg'
    cases hg'
    exact hlast
  · intro hprompted
    rw [hfree] at hprompted
    cases hprompted

theorem of_loggedOut (hs : s'.Coherent) (hstate : s'.state = .loggedOut)
    (hpublished : s'.watch.value = s'.state) : s'.Consistent := by
  refine ⟨hs, ?_, ?_, hpublished⟩
  · intro g hg
    rw [hstate] at hg
    cases hg
  · intro _
    exact hstate

/-- **Step.**  The parts of a session agree after an operation. -/
theorem operated (h : s.Consistent) (ho : Operated s o a s') : s'.Consistent := by
  have hcoherent : s'.Coherent := ho.coherent h.toCoherent
  cases ho with
  | signedIn c => exact .of_loggedIn hcoherent rfl rfl rfl rfl
  | @started g state =>
    have hfree : s.prompted = false := h.free (by rw [state]; nofun)
    refine ⟨hcoherent, ?_, ?_, rfl⟩
    · -- the generation that is being replaced is the one that was in use
      intro g' hg'
      cases hg'
      exact h.last g (by rw [state]; rfl)
    · intro hprompted
      have hno : s.prompted = true := hprompted
      rw [hfree] at hno
      cases hno
  | replaced state =>
    have hfree : s.prompted = false := h.free (by rw [state]; nofun)
    exact .of_loggedIn hcoherent rfl rfl hfree rfl
  | failed state => exact .of_loggedOut hcoherent rfl rfl
  | signedOut state => exact .of_loggedOut hcoherent rfl rfl
  -- nothing is published when the session was over before
  | cleared state => exact .of_loggedOut hcoherent state h.published
  | claimed state free => exact .of_loggedOut hcoherent state h.published
  | ignored ignored => exact h

/-- **Run.**  They agree after any operations, whichever writes fail. -/
theorem after (h : s.Consistent) (fails : Nat → Bool) (os : List Operation) :
    (s.after fails os).Consistent := by
  induction os using List.reverseRecOn with
  | nil => exact h
  | append_singleton os o ih =>
    have hnext : (s.next fails os).Consistent :=
      ⟨ih.toCoherent.congr rfl rfl rfl, ih.last, ih.prompted, ih.published⟩
    rw [after_concat]
    exact hnext.operated (operate_spec _ o)

end Consistent

/-! ### The generations that are handed out -/

/-- **Step.**  An operation hands out the next generation, or none. -/
theorem Operated.issued (h : Operated s o a s') :
    (⟨o, a⟩ : Deed).issued? = none ∧ s'.issued = s.issued ∨
      (⟨o, a⟩ : Deed).issued? = some s.nextGeneration ∧ s'.issued = s.issued + 1 := by
  cases h with
  | signedIn c => exact Or.inr ⟨rfl, signIn_issued s c⟩
  | replaced state => exact Or.inr ⟨rfl, replaced_issued s _⟩
  | started | failed | signedOut | cleared | claimed => exact Or.inl ⟨rfl, rfl⟩
  | ignored ignored =>
    refine Or.inl ⟨?_, rfl⟩
    cases ignored <;> rfl

/-- **Run.**  The generations that are handed out go on from the newest. -/
theorem issued_after (s : Session) (fails : Nat → Bool) (os : List Operation) :
    ∃ count, (s.after fails os).issued = s.issued + count ∧
      (s.deeds fails os).filterMap Deed.issued? =
        (List.range' (s.issued + 1) count).map Generation.mk := by
  induction os using List.reverseRecOn with
  | nil => exact ⟨0, rfl, rfl⟩
  | append_singleton os o ih =>
    obtain ⟨count, hissued, hgenerations⟩ := ih
    have hnext : (s.next fails os).issued = s.issued + count := hissued
    rw [after_concat, deeds_concat, List.filterMap_append, hgenerations]
    rcases (operate_spec (s.next fails os) o).issued with ⟨hnone, hsame⟩ | ⟨hone, hmore⟩
    · refine ⟨count, by rw [hsame, hnext], ?_⟩
      rw [List.filterMap_cons_none hnone, List.filterMap_nil, List.append_nil]
    · -- the next generation is the one after all that were handed out
      refine ⟨count + 1, by rw [hmore, hnext, Nat.add_assoc], ?_⟩
      have hnumber : (s.next fails os).nextGeneration = ⟨s.issued + 1 + count⟩ := by
        have hsucc := (s.next fails os).nextGeneration_number
        rw [hnext] at hsucc
        have heq : (s.next fails os).nextGeneration.number = s.issued + 1 + count := by omega
        exact congrArg Generation.mk heq
      rw [List.filterMap_cons_some hone, List.filterMap_nil, hnumber, List.range'_1_concat,
        List.map_append, List.map_singleton]

/-- A restored session has handed out the first generation if it has credentials, and
otherwise none. -/
theorem restore_issued (store : Store) :
    (restore store).state.generation?.toList =
      (List.range' 1 (restore store).issued).map Generation.mk := by
  unfold restore
  split <;> rfl

/-! ### The main theorem -/

/-- **The parts of a session agree at all times.**  Restore a session from any store, and
do with it whatever you like, while any of the writes fail.

* The session is idle, or refreshing, under a generation exactly if it has credentials of
  this generation; and then no generation was handed out later.
* It is signed out exactly if it has no credentials.
* The sign-in prompt is claimed only while it is signed out.
* The state is what was published last.
* The generations of the restored session, of the sign-ins and of the refreshes that ended
  well, in this order, are 1, 2, 3 and so on. -/
theorem consistent_after (store : Store) (fails : Nat → Bool) (os : List Operation) :
    let s₀ := restore store
    let s := s₀.after fails os
    (∀ g, (s.state = .loggedIn g ∨ s.state = .refreshing g ↔ ∃ c, s.current = some ⟨g, c⟩) ∧
      (s.state = .loggedIn g ∨ s.state = .refreshing g → s.lastIssued = some g)) ∧
    (s.state = .loggedOut ↔ s.current = none) ∧
    (s.prompted = true → s.state = .loggedOut) ∧
    s.watch.value = s.state ∧
    s₀.state.generation?.toList ++ (s₀.deeds fails os).filterMap Deed.issued? =
      (List.range' 1 s.issued).map Generation.mk := by
  intro s₀ s
  have h : s.Consistent := (Consistent.restore store).after fails os
  have hstate : ∀ g, s.state = .loggedIn g ∨ s.state = .refreshing g ↔
      s.state.generation? = some g := by
    intro g
    cases s.state <;> simp [State.generation?]
  refine ⟨?_, ?_, h.prompted, h.published, ?_⟩
  · intro g
    rw [hstate, ← h.current_generation, Option.map_eq_some_iff]
    constructor
    · constructor
      · rintro ⟨⟨g', c⟩, hcurrent, rfl⟩
        exact ⟨c, hcurrent⟩
      · rintro ⟨c, hcurrent⟩
        exact ⟨⟨g, c⟩, hcurrent, rfl⟩
    · intro hcurrent
      rw [← Option.map_eq_some_iff, h.current_generation] at hcurrent
      exact h.last g hcurrent
  · constructor
    · intro hout
      exact h.current_of_loggedOut hout
    · -- whoever is signed in has credentials
      intro hnone
      by_contra hin
      have hsome : s.isLoggedIn = true := isLoggedIn_eq_true_iff.mpr hin
      rw [h.isLoggedIn_eq, hnone] at hsome
      cases hsome
  · -- what was handed out later goes on from what the restored session had
    obtain ⟨count, hissued, hgenerations⟩ := issued_after s₀ fails os
    have hcount : s.issued = s₀.issued + count := hissued
    rw [hgenerations, restore_issued, ← List.map_append, hcount, Nat.add_comm s₀.issued 1,
      List.range'_append_1]

end Session

end SessionKeeper
