/-! # Lists

What the runs of this library need of lists, whatever is in them.

* One entry is taken out of a list, at a place or by its number.
* One entry is put in the place of another, or behind all the others.
* A list of at most one entry has one order, and a list with few entries of each kind is not
  long.

Core Lean 4 only; no Mathlib. -/

namespace SessionKeeper

variable {α : Type}

/-! ### One entry is taken out -/

theorem split_of_getElem? {l : List α} {i : Nat} {a : α} (h : l[i]? = some a) :
    ∃ l₁ l₂, l = l₁ ++ a :: l₂ ∧ l.eraseIdx i = l₁ ++ l₂ := by
  obtain ⟨hlt, rfl⟩ := List.getElem?_eq_some_iff.mp h
  refine ⟨l.take i, l.drop (i + 1), ?_, List.eraseIdx_eq_take_drop_succ _ _⟩
  rw [List.getElem_cons_drop, List.take_append_drop]

theorem mem_of_lookup {l : List (Nat × α)} {id : Nat} {a : α} (h : l.lookup id = some a) :
    (id, a) ∈ l := by
  obtain ⟨l₁, l₂, rfl, -⟩ := List.lookup_eq_some_iff.mp h
  exact List.mem_append_right _ List.mem_cons_self

theorem lookup_of_mem {l : List (Nat × α)} (hnodup : (l.map (·.1)).Nodup) {id : Nat} {a : α}
    (h : (id, a) ∈ l) : l.lookup id = some a := by
  obtain ⟨l₁, l₂, rfl⟩ := List.append_of_mem h
  rw [List.map_append, List.map_cons] at hnodup
  apply List.lookup_eq_some_iff.mpr
  refine ⟨l₁, l₂, rfl, ?_⟩
  intro p hp
  -- no entry in front of it has its number
  have hne : p.1 ≠ id := (List.nodup_append.mp hnodup).2.2 p.1
    (List.mem_map.mpr ⟨p, hp, rfl⟩) id List.mem_cons_self
  exact bne_iff_ne.mpr (Ne.symm hne)

theorem split_of_lookup {l : List (Nat × α)} (hnodup : (l.map (·.1)).Nodup) {id : Nat} {a : α}
    (h : l.lookup id = some a) :
    ∃ l₁ l₂, l = l₁ ++ (id, a) :: l₂ ∧ l.filter (·.1 != id) = l₁ ++ l₂ := by
  obtain ⟨l₁, l₂, rfl, hfront⟩ := List.lookup_eq_some_iff.mp h
  rw [List.map_append, List.map_cons] at hnodup
  have hbehind : id ∉ l₂.map (·.1) := (List.nodup_cons.mp (List.nodup_append.mp hnodup).2.1).1
  refine ⟨l₁, l₂, rfl, ?_⟩
  have hkept₁ : l₁.filter (·.1 != id) = l₁ := by
    apply List.filter_eq_self.mpr
    intro p hp
    exact bne_iff_ne.mpr (Ne.symm (bne_iff_ne.mp (hfront p hp)))
  have hkept₂ : l₂.filter (·.1 != id) = l₂ := by
    apply List.filter_eq_self.mpr
    intro p hp
    rw [bne_iff_ne]
    intro heq
    exact hbehind (List.mem_map.mpr ⟨p, hp, heq⟩)
  rw [List.filter_append, List.filter_cons_of_neg (by simp), hkept₁, hkept₂]

/-! ### One entry is put in -/

theorem getElem?_set_of_some {l : List α} {n : Nat} {a b : α} (h : l[n]? = some a) (m : Nat) :
    (l.set n b)[m]? = if m = n then some b else l[m]? := by
  obtain ⟨hlt, -⟩ := List.getElem?_eq_some_iff.mp h
  by_cases hm : m = n
  · subst hm
    simp [hlt]
  · simp [hm, List.getElem?_set_ne (Ne.symm hm)]

/-- One of the entries of a list with one more at its end. -/
theorem concat_eq_append_cons_iff {l before behind : List α} {a b : α} :
    l ++ [a] = before ++ b :: behind ↔
      (l = before ∧ a = b ∧ behind = []) ∨
        ∃ behind', l = before ++ b :: behind' ∧ behind = behind' ++ [a] := by
  constructor
  · intro h
    rcases List.eq_nil_or_concat behind with hnil | ⟨behind', z, hconcat⟩
    · left
      rw [hnil] at h
      obtain ⟨hinit, hlast⟩ := List.append_inj' h rfl
      cases hlast
      exact ⟨hinit, rfl, hnil⟩
    · right
      rw [List.concat_eq_append] at hconcat
      rw [hconcat, ← List.cons_append, ← List.append_assoc] at h
      obtain ⟨hinit, hlast⟩ := List.append_inj' h rfl
      cases hlast
      exact ⟨behind', hinit, hconcat⟩
  · rintro (⟨rfl, rfl, rfl⟩ | ⟨behind', rfl, rfl⟩)
    · rfl
    · simp

/-! ### Short lists -/

theorem eq_of_perm_of_length_le_one {l l' : List α} (h : l.Perm l') (hlength : l.length ≤ 1) :
    l' = l := by
  match l with
  | [] => exact h.nil_eq.symm
  | [a] => exact List.perm_singleton.mp h.symm
  | _ :: _ :: _ =>
    simp only [List.length_cons] at hlength
    omega

/-- A list has no more entries than its members may have together. -/
theorem length_le_of_count [DecidableEq α] {l s : List α} {k : Nat} (hmem : ∀ a ∈ l, a ∈ s)
    (hcount : ∀ a, l.count a ≤ k) : l.length ≤ k * s.length := by
  induction s generalizing l with
  | nil =>
    have hnil : l = [] := by
      apply List.eq_nil_iff_forall_not_mem.mpr
      intro a ha
      exact List.not_mem_nil (hmem a ha)
    rw [hnil]
    exact Nat.zero_le _
  | cons b s ih =>
    -- at most `k` entries are the first member, and the others are members of the rest
    have hothers : l.countP (fun a => ¬ a == b) ≤ k * s.length := by
      rw [List.countP_eq_length_filter]
      apply ih
      · intro a ha
        obtain ⟨hal, hne⟩ := List.mem_filter.mp ha
        rcases List.mem_cons.mp (hmem a hal) with rfl | hs
        · simp at hne
        · exact hs
      · intro a
        exact Nat.le_trans (List.filter_sublist.count_le a) (hcount a)
    have hsplit : l.length = l.count b + l.countP (fun a => ¬ a == b) :=
      List.length_eq_countP_add_countP (· == b)
    have hfirst := hcount b
    rw [List.length_cons, Nat.mul_succ]
    omega

end SessionKeeper
