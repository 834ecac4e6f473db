import SessionKeeper.Proofs.Client.Effects
import SessionKeeper.Proofs.Client.Expiry

/-! # What the store keeps

A session writes its store when somebody signs in, when its credentials are replaced and
when it ends (`Writes`).  As long as these writes succeed, and nobody else alters the
record (`Undisturbed`), the store holds the credentials in use (`Session.Mirrored`).  So
a client that is started again with this store goes on where the first one was, whatever
had been in the store at first.

A store that can be written once can be written for ever, unless somebody interferes
(`Undisturbed.of_writable`).

Mathlib gives the induction over a run from its end. -/

namespace SessionKeeper

namespace Session

variable {s s' : Session} {c : Credentials}

/-- The store holds the credentials in use. -/
def Mirrored (s : Session) : Prop :=
  s.store.load = s.credentials?

/-- Only the record and the credentials count. -/
theorem Mirrored.congr (h : s.Mirrored) (hrecord : s'.store.text? = s.store.text?)
    (hcurrent : s'.current = s.current) : s'.Mirrored := by
  unfold Mirrored Store.load credentials? at h ⊢
  rw [hrecord, hcurrent, h]

/-- A session takes over what its store holds. -/
theorem restore_of_some {store : Store} (h : store.load = some c) :
    (restore store).state = .loggedIn .first ∧ (restore store).current = some ⟨.first, c⟩ := by
  unfold restore
  rw [h]
  exact ⟨rfl, rfl⟩

theorem restore_of_none {store : Store} (h : store.load = none) :
    (restore store).state = .loggedOut ∧ (restore store).current = none := by
  unfold restore
  rw [h]
  exact ⟨rfl, rfl⟩

theorem Mirrored.restore (store : Store) : (Session.restore store).Mirrored := by
  rw [Mirrored, restore_store, credentials?_restore]

theorem Mirrored.signIn (hs : s.store.Writable) (hc : c.accessToken ≠ "") :
    (s.signIn c).2.Mirrored := by
  rw [Mirrored, signIn_store, hs.load_attempt_save hc, credentials?, signIn_current]
  rfl

theorem Mirrored.replaced (hs : s.store.Writable) (hc : c.accessToken ≠ "") :
    (s.replaced c).Mirrored := by
  -- a refresh token that is kept makes no difference to the access token
  have htoken : (s.replacement c).accessToken ≠ "" := hc
  rw [Mirrored, replaced_store, hs.load_attempt_save htoken, credentials?, replaced_current]
  rfl

theorem Mirrored.ended (hs : s.store.Writable) : s.ended.Mirrored := by
  rw [Mirrored, ended_store, hs.load_attempt_clear, credentials?, ended_current]
  rfl

theorem Mirrored.signOut (hs : s.store.Writable) : s.signOut.2.Mirrored := by
  rw [Mirrored, signOut_store, hs.load_attempt_clear, credentials?, signOut_current]
  rfl

end Session

namespace Client

/-! ### Undisturbed runs -/

/-- The session writes its store in an event. -/
def Writes (c : Client) (e : Event) : Prop :=
  SignsIn c e ∨ SignsOut c e ∨
    -- a flight ends that the session has waited for
    ((∃ g, c.session.state = .refreshing g) ∧ (c.step e).desk.flight = none)

/-- A write of the session fails. -/
def WriteFails (c : Client) (e : Event) : Prop :=
  Writes c e ∧ ¬ c.session.store.Writable

/-- Somebody else alters the record. -/
def Alters (c : Client) (e : Event) : Prop :=
  ∃ store : Store, e = .store store ∧ store.text? ≠ c.session.store.text?

/-- No write fails in a run, and nobody else alters the record. -/
structure Undisturbed (c : Client) (es : List Event) : Prop where
  written : ¬ During c es WriteFails
  unaltered : ¬ During c es Alters

section undisturbed

variable {c : Client} {es : List Event} {e : Event}

theorem Undisturbed.initial (h : Undisturbed c (es ++ [e])) : Undisturbed c es := by
  constructor
  · intro hfails
    exact h.written (hfails.concat e)
  · intro halters
    exact h.unaltered (halters.concat e)

/-- When the session writes, the store can be written. -/
theorem Undisturbed.writable (h : Undisturbed c (es ++ [e])) (hwrites : Writes (c.after es) e) :
    (c.after es).session.store.Writable := by
  by_contra hfails
  exact h.written (.last ⟨hwrites, hfails⟩)

theorem Undisturbed.record (h : Undisturbed c (es ++ [e])) {store : Store} (he : e = .store store) :
    store.text? = (c.after es).session.store.text? := by
  by_contra halters
  exact h.unaltered (.last ⟨store, he, halters⟩)

/-! ### The record along a run -/

/-- **Step.**  The store goes on holding the credentials in use. -/
theorem Affects.mirrored (h : Affects c e (c.step e))
    (hwritable : Writes c e → c.session.store.Writable)
    (hrecord : ∀ store, e = .store store → store.text? = c.session.store.text?)
    (hs : c.session.Mirrored) : (c.step e).session.Mirrored := by
  cases h with
  | spares session prompts => rwa [session]
  | refreshes state session prompts =>
    rw [session]
    exact hs.congr rfl rfl
  | signsIn token settled session prompts =>
    have hstore := hwritable (Or.inl ⟨_, _, settled⟩)
    rw [session]
    exact .signIn hstore token
  | lands under token landed session flight prompts =>
    rw [session]
    cases landed with
    | replaced state returned =>
      have hstore := hwritable (Or.inr (Or.inr ⟨⟨_, state⟩, flight⟩))
      exact .replaced hstore (token _ returned)
    | failed state returned =>
      have hstore := hwritable (Or.inr (Or.inr ⟨⟨_, state⟩, flight⟩))
      exact .ended hstore
    -- a flight that comes too late writes nothing
    | overtaken state newer current => exact hs
    | ended state => exact hs
  | signsOut cause session prompts =>
    have hout : c.session.signOut.2.Mirrored := .signOut (hwritable (Or.inr (Or.inl cause)))
    rw [session, signOut_session]
    exact hout.congr rfl rfl
  | rejects cause session prompts =>
    rw [session]
    exact hs.congr (by rw [Session.claimPrompt_store]) (Session.claimPrompt_current _)
  | @stores store event session prompts =>
    rw [session]
    exact hs.congr (hrecord store event) rfl

/-- **Run.**  In a run that nothing disturbs the store holds the credentials in use. -/
theorem mirrored_after (hc : c.Ledger) (hs : c.session.Mirrored) (h : Undisturbed c es) :
    (c.after es).session.Mirrored := by
  induction es using List.reverseRecOn with
  | nil => exact hs
  | append_singleton es e ih =>
    rw [after_concat]
    exact (affects_spec (hc.after es) e).mirrored h.writable (fun _ => h.record) (ih h.initial)

/-- **Step.**  A store that can be written can be written again. -/
theorem Affects.writable {c' : Client} (h : Affects c e c') (he : ∀ store, e ≠ .store store)
    (hs : c.session.store.Writable) : c'.session.store.Writable := by
  cases h with
  | spares session prompts => rwa [session]
  | refreshes state session prompts => rwa [session]
  | signsIn token settled session prompts =>
    rw [session]
    exact hs.attempt_save _
  | lands under token landed session flight prompts =>
    rw [session]
    cases landed with
    | replaced state returned => exact hs.attempt_save _
    | failed state returned => exact hs.attempt_clear
    | overtaken state newer current => exact hs
    | ended state => exact hs
  | signsOut cause session prompts =>
    rw [session, signOut_session]
    show c.session.signOut.2.store.Writable
    rw [Session.signOut_store]
    exact hs.attempt_clear
  | rejects cause session prompts => rwa [session, Session.claimPrompt_store]
  | stores event session prompts => exact absurd event (he _)

/-- **Run.**  Unless others interfere, a store that can be written can be written again. -/
theorem writable_after (hc : c.Ledger) (hs : c.session.store.Writable)
    (hes : ∀ e ∈ es, ∀ store, e ≠ .store store) : (c.after es).session.store.Writable := by
  induction es generalizing c with
  | nil => exact hs
  | cons e es ih =>
    have hstep := (affects_spec hc e).writable (hes e List.mem_cons_self) hs
    apply ih (hc.step e) hstep
    intro e' he'
    exact hes e' (List.mem_cons_of_mem _ he')

/-- So nothing disturbs its run. -/
theorem Undisturbed.of_writable (hc : c.Ledger) (hs : c.session.store.Writable)
    (hes : ∀ e ∈ es, ∀ store, e ≠ .store store) : Undisturbed c es := by
  constructor
  · rintro ⟨past, e, later, rfl, -, hfails⟩
    apply hfails
    apply writable_after hc hs
    intro e' he'
    exact hes e' (List.mem_append_left _ he')
  · rintro ⟨past, e, later, rfl, store, rfl, -⟩
    exact hes _ (by simp) store rfl

end undisturbed

/-! ### The main theorem -/

/-- **Memory, store and restart agree.**  Take any run of a client, whatever its store
holds at first, in which no write of the store fails and nobody else alters it.

Then the store holds the credentials in use, which have an access token.  A client that
is started with this store, at any time and with any options, is signed in with just
these credentials if the first one is, and signed out otherwise. -/
theorem restarted_after (options : Options) (store : Store) (now : Time.Instant)
    (es : List Event) (hundisturbed : Undisturbed (Client.new options store now) es) :
    let c := (Client.new options store now).after es
    c.session.store.load = c.session.credentials? ∧
    (∀ x, c.session.credentials? = some x → x.accessToken ≠ "") ∧
    ∀ options' now', let c' := Client.new options' c.session.store now'
      if c.session.isLoggedIn then
        ∃ x, c.session.credentials? = some x ∧
          c'.session.state = .loggedIn .first ∧ c'.session.current = some ⟨.first, x⟩
      else
        c.session.credentials? = none ∧
          c'.session.state = .loggedOut ∧ c'.session.current = none := by
  intro c
  have hc₀ : (Client.new options store now).Ledger := .new options store now
  have hload : c.session.store.load = c.session.credentials? :=
    mirrored_after hc₀ (.restore store) hundisturbed
  have hcoherent : c.session.Coherent := (hc₀.after es).desk.coherent
  refine ⟨hload, ?_, ?_⟩
  · -- what a store holds has an access token, whoever has saved it
    intro x hx
    rw [hx] at hload
    exact Store.accessToken_of_load hload
  · -- somebody is signed in exactly while there are credentials to be loaded
    intro options' now' c'
    rw [hcoherent.isLoggedIn_eq]
    unfold Session.credentials? at hload ⊢
    cases hcurrent : c.session.current with
    | none =>
      rw [hcurrent] at hload
      exact ⟨rfl, Session.restore_of_none hload⟩
    | some snapshot =>
      rw [hcurrent] at hload
      exact ⟨snapshot.credentials, rfl, Session.restore_of_some hload⟩

/-- A store whose record cannot be read. -/
def damagedStore : Store :=
  ⟨.memory (some "\x7b"), false⟩

/-- Somebody signs in, and the credentials are refused and replaced. -/
def replacingEvents : List Event :=
  [.signIn "a@b.c" "pw", .go 0, .reply 0 (granting "one"), .spawn (.ok page), .go 0,
    .reply 1 denying, .go 0, .reply 2 (granting "two")]

/-- Whoever is started again has the second credentials. -/
theorem restarted_after_replacing :
    let c := (Client.new {} damagedStore epoch).after replacingEvents
    Undisturbed (Client.new {} damagedStore epoch) replacingEvents ∧
    c.session.state = .loggedIn ⟨2⟩ ∧
    c.session.store.load = some ⟨"two", "Bearer", none, none⟩ ∧
    (Client.new {} c.session.store epoch).session.state = .loggedIn .first ∧
    (Client.new {} c.session.store epoch).session.current =
      some ⟨.first, ⟨"two", "Bearer", none, none⟩⟩ := by
  intro c
  have hundisturbed : Undisturbed (Client.new {} damagedStore epoch) replacingEvents := by
    have hwritable : damagedStore.Writable := .memory _
    refine .of_writable (.new {} damagedStore epoch) ?_ (by simp [replacingEvents])
    show (Session.restore damagedStore).store.Writable
    rwa [Session.restore_store]
  have hcredentials : c.session.credentials? = some ⟨"two", "Bearer", none, none⟩ := by
    decide +kernel
  have hin : c.session.isLoggedIn = true := by decide +kernel
  obtain ⟨hload, -, hrestarted⟩ :=
    restarted_after {} damagedStore epoch replacingEvents hundisturbed
  have hagain := hrestarted {} epoch
  rw [if_pos hin] at hagain
  obtain ⟨x, hx, hstate, hcurrent⟩ := hagain
  cases hcredentials.symm.trans hx
  exact ⟨hundisturbed, by decide +kernel, hload.trans hcredentials, hstate, hcurrent⟩

end Client

end SessionKeeper
