import SessionKeeper.Proofs.Client.Deeds
import SessionKeeper.Proofs.Lists

/-! # Requests on their way

A client keeps what it has sent, and apart from that who waits for which reply.

* The requests that are waited for are among those sent, for the same owner
  (`Posted`).
* A flight makes one call: it is about to begin, and then it waits for its reply
  (`calls`).  `boarding` are the flights that are about to begin, and `departures`
  those that have sent their request.

What the parts of a step do to all this is said here once.

Core Lean 4 only; no Mathlib. -/

namespace SessionKeeper

namespace Client

/-! ### Who waits for which reply -/

/-- The numbers of the requests that are waited for are those of requests that
were sent, for the same owner. -/
structure Posted (c : Client) : Prop where
  keys : (c.awaiting.map (·.1)).Nodup
  sent : ∀ p ∈ c.awaiting, ∃ r, c.sent[p.1]? = some ⟨p.2, r⟩

namespace Posted

variable {c c' : Client}

theorem of_sublist (h : c.Posted) (hsent : c'.sent = c.sent)
    (hawaiting : c'.awaiting.Sublist c.awaiting) : c'.Posted where
  keys := h.keys.sublist (hawaiting.map _)
  sent p hp := by rw [hsent]; exact h.sent p (hawaiting.subset hp)

theorem congr (h : c.Posted) (hsent : c'.sent = c.sent) (hawaiting : c'.awaiting = c.awaiting) :
    c'.Posted :=
  h.of_sublist hsent (hawaiting ▸ List.Sublist.refl _)

theorem noting (h : c.Posted) (e : Event) : (c.noting e).Posted :=
  h.of_sublist (noting_sent c e) (by rw [noting_awaiting]; exact List.filter_sublist)

theorem setStage (h : c.Posted) (n : Nat) (stage : Stage) : (c.setStage n stage).Posted :=
  h.congr rfl rfl

theorem transmit (h : c.Posted) (owner : Owner) (r : Http.Request) :
    (c.transmit owner r).Posted where
  keys := by
    simp only [Client.transmit, List.map_append, List.map_singleton, List.nodup_append]
    refine ⟨h.keys, by simp, fun id hid id' hid' heq => ?_⟩
    obtain ⟨p, hp, rfl⟩ := List.mem_map.mp hid
    obtain ⟨r', hr'⟩ := h.sent p hp
    rw [List.mem_singleton] at hid'
    -- the number of a new request is larger than all before
    have hlt := (List.getElem?_eq_some_iff.mp hr').1
    omega
  sent p hp := by
    simp only [Client.transmit] at hp ⊢
    rcases List.mem_append.mp hp with hold | hnew
    · obtain ⟨r', hr'⟩ := h.sent p hold
      have hlt := (List.getElem?_eq_some_iff.mp hr').1
      exact ⟨r', by rw [List.getElem?_append_left hlt, hr']⟩
    · rw [List.mem_singleton.mp hnew]
      exact ⟨r, by simp⟩

end Posted

/-- To whom a reply belongs that is waited for. -/
theorem mem_awaitedBy {c : Client} {owner : Owner} {id : Nat} :
    id ∈ c.awaitedBy owner ↔ (id, owner) ∈ c.awaiting := by
  simp only [awaitedBy, List.mem_map, List.mem_filter, decide_eq_true_eq]
  constructor
  · rintro ⟨⟨id', owner'⟩, ⟨hmem, rfl⟩, rfl⟩
    exact hmem
  · intro h
    exact ⟨(id, owner), ⟨h, rfl⟩, rfl⟩

/-- A number is waited for by one owner only. -/
theorem Posted.owner_eq {c : Client} (h : c.Posted) {id : Nat} {owner owner' : Owner}
    (hid : (id, owner) ∈ c.awaiting) (hid' : (id, owner') ∈ c.awaiting) : owner = owner' := by
  obtain ⟨r, hr⟩ := h.sent _ hid
  obtain ⟨r', hr'⟩ := h.sent _ hid'
  rw [hr] at hr'
  cases hr'
  rfl

/-! ### Flights and their calls -/

/-- The generations for which flights have sent requests. -/
def departures (c : Client) : List Generation :=
  c.sent.filterMap (·.owner.flight?)

/-- The generations whose flights are about to begin. -/
def boarding (c : Client) : List Generation :=
  c.ready.filterMap Step.launched?

/-- The generations whose flights are about to begin, or wait for a reply. -/
def calls (c : Client) : List Generation :=
  c.boarding ++ c.awaiting.filterMap (·.2.flight?)

@[simp] theorem departures_noting (c : Client) (e : Event) :
    (c.noting e).departures = c.departures := by
  rw [departures, departures, noting_sent]

theorem Beside.departures {c d : Client} (h : Beside c d) : d.departures = c.departures := by
  rw [Client.departures, Client.departures, h.sent]

/-- No flight has begun in an event that concerns none. -/
theorem boarding_noting {c : Client} {e : Event} (h : c.calling? e = none) :
    (c.noting e).boarding = c.boarding := by
  cases e with
  | go place =>
    cases hstep : c.ready[place]? with
    | none =>
      rw [boarding, noting, List.eraseIdx_of_length_le (List.getElem?_eq_none_iff.mp hstep)]
      rfl
    | some s =>
      have hs : s.launched? = none := by simpa [calling?, hstep] using h
      obtain ⟨l₁, l₂, hready, hrest⟩ := split_of_getElem? hstep
      simp only [boarding, noting, hrest]
      rw [hready, List.filterMap_append, List.filterMap_append, List.filterMap_cons_none hs]
  | _ => rfl

theorem calls_noting_of_none {c : Client} (hkeys : (c.awaiting.map (·.1)).Nodup) {e : Event}
    (h : c.calling? e = none) : (c.noting e).calls = c.calls := by
  have hboarding := boarding_noting h
  unfold calls
  rw [hboarding]
  cases e with
  | reply id reply =>
    cases hawaited : c.awaiting.lookup id with
    | none =>
      have hsame : c.awaiting.filter (·.1 != id) = c.awaiting :=
        List.filter_eq_self.mpr fun p hp => by
          have hne := List.lookup_eq_none_iff.mp hawaited p hp
          rw [bne_iff_ne]
          rintro rfl
          simp at hne
      simp only [noting, hsame]
    | some owner =>
      have ho : owner.flight? = none := by simpa [calling?, hawaited] using h
      obtain ⟨l₁, l₂, hawaiting, hrest⟩ := split_of_lookup hkeys hawaited
      simp only [noting, hrest]
      simp only [hawaiting, List.filterMap_append, List.filterMap_cons, ho]
  | _ => rfl

/-- The call that an event concerns is noted and gone. -/
theorem calls_noting_of_some {c : Client} (hkeys : (c.awaiting.map (·.1)).Nodup) {e : Event}
    {g : Generation} (h : c.calling? e = some g) (hone : c.calls.length ≤ 1) :
    c.calls = [g] ∧ (c.noting e).calls = [] := by
  -- the call stands somewhere in a list of one
  have hsplit : ∀ l₁ l₂ : List Generation, c.calls = l₁ ++ g :: l₂ →
      (c.noting e).calls = l₁ ++ l₂ → c.calls = [g] ∧ (c.noting e).calls = [] := by
    intro l₁ l₂ hbefore hafter
    rw [hbefore, List.length_append, List.length_cons] at hone
    have h₁ : l₁ = [] := List.eq_nil_of_length_eq_zero (by omega)
    have h₂ : l₂ = [] := List.eq_nil_of_length_eq_zero (by omega)
    rw [hbefore, hafter, h₁, h₂]
    exact ⟨rfl, rfl⟩
  cases e with
  | go place =>
    obtain ⟨s, hstep, hs⟩ := Option.bind_eq_some_iff.mp h
    obtain ⟨l₁, l₂, hready, hrest⟩ := split_of_getElem? hstep
    refine hsplit (l₁.filterMap Step.launched?)
      (l₂.filterMap Step.launched? ++ c.awaiting.filterMap (·.2.flight?)) ?_ ?_
    · rw [calls, boarding, hready, List.filterMap_append, List.filterMap_cons_some hs,
        List.append_assoc]
      rfl
    · simp only [noting, calls, boarding, hrest, List.filterMap_append, List.append_assoc]
  | reply id reply =>
    obtain ⟨owner, hawaited, ho⟩ := Option.bind_eq_some_iff.mp h
    obtain ⟨l₁, l₂, hawaiting, hrest⟩ := split_of_lookup hkeys hawaited
    refine hsplit (c.boarding ++ l₁.filterMap (·.2.flight?))
      (l₂.filterMap (·.2.flight?)) ?_ ?_
    · simp only [calls, hawaiting, List.filterMap_append, List.filterMap_cons, ho,
        List.append_assoc]
    · simp only [noting, calls, boarding, hrest, List.filterMap_append, List.append_assoc]
  | _ => cases h

section parts

variable (c : Client)

theorem departures_transmit (owner : Owner) (r : Http.Request) :
    (c.transmit owner r).departures = c.departures ++ owner.flight?.toList := by
  simp only [departures, transmit, List.filterMap_append]
  cases h : owner.flight? <;> simp [h]

@[simp] theorem settleFlight_tasks (g : Generation) (result : Except CallError Credentials) :
    (c.settleFlight g result).tasks = c.tasks := by
  unfold settleFlight
  rcases c.desk.settle g result with ⟨_ | ⟨waiters, outcome⟩, f⟩ <;> rfl

/-- A flight that is under way ends: its waiters can go on, with one outcome. -/
theorem settleFlight_of_flight (hs : c.desk.Sound) {flight : SingleFlight.Flight}
    (hflight : c.desk.flight = some flight) (result : Except CallError Credentials) :
    ∃ outcome s, SingleFlight.Landed c.session flight.generation result outcome s ∧
      c.settleFlight flight.generation result =
        { c with desk := ⟨s, none⟩ }.enable (flight.waiters.map (.wake · outcome)) := by
  obtain ⟨outcome, s, hsettle, hlanded⟩ := SingleFlight.settle_spec hs hflight result
  exact ⟨outcome, s, hlanded, by simp only [settleFlight, hsettle]⟩

/-- Steps that can go on can still do so when a flight has ended. -/
theorem mem_settleFlight {s : Step} (h : s ∈ c.ready) (g : Generation)
    (result : Except CallError Credentials) : s ∈ (c.settleFlight g result).ready := by
  unfold settleFlight
  rcases c.desk.settle g result with ⟨_ | ⟨waiters, outcome⟩, f⟩
  · exact h
  · exact List.mem_append_left _ h

/-- No flight begins when one ends. -/
theorem flight_of_settleFlight {g : Generation} {result : Except CallError Credentials}
    {flight : SingleFlight.Flight} (h : (c.settleFlight g result).desk.flight = some flight) :
    c.desk.flight = some flight := by
  rw [settleFlight_desk] at h
  unfold SingleFlight.settle at h
  split at h
  · split at h
    · cases h
    · exact h
  · exact h

theorem departures_settleFlight (g : Generation) (result : Except CallError Credentials) :
    (c.settleFlight g result).departures = c.departures := by
  unfold settleFlight
  rcases c.desk.settle g result with ⟨_ | ⟨waiters, outcome⟩, f⟩ <;> rfl

theorem boarding_settleFlight (g : Generation) (result : Except CallError Credentials) :
    (c.settleFlight g result).boarding = c.boarding := by
  unfold settleFlight
  rcases c.desk.settle g result with ⟨_ | ⟨waiters, outcome⟩, f⟩
  · rfl
  · simp [boarding, enable, Step.launched?]

theorem calls_abort (n : Nat) : (c.abort n).calls = c.calls := by
  simp only [calls, boarding, abort, setStage, List.filterMap_filter]
  congr 2
  funext p
  by_cases hp : p.2 = .task n
  · simp [hp, Owner.flight?]
  · simp [hp]

theorem calls_transmit (owner : Owner) (r : Http.Request) :
    (c.transmit owner r).calls = c.calls ++ owner.flight?.toList := by
  simp only [calls, boarding, transmit, List.filterMap_append, List.append_assoc]
  cases h : owner.flight? <;> simp [h]

end parts

end Client

end SessionKeeper
