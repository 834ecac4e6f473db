import SessionKeeper.Proofs.Client.Keeping
import SessionKeeper.Proofs.Refresh.Issuance

/-! # The way of a refresh token

A session begins with a sign-in.  Its credentials are replaced any number of times, and
any number of times it is restored from its store (`Session.Life`).  A response that
brings no refresh token leaves the old one in use, and a restart takes over what was saved.
So the token in use is always the one that was issued last (`Session.Life.holds`), and the
next request for new credentials brings it back to the service
(`Session.refreshToken_kept`).

No more of Mathlib than the imports bring. -/

namespace SessionKeeper

/-! ### One refresh -/

namespace Client

/-- The end of a flight sends nothing. -/
@[simp] theorem settleFlight_sent (c : Client) (g : Generation)
    (result : Except CallError Credentials) : (c.settleFlight g result).sent = c.sent := by
  unfold settleFlight
  rcases c.desk.settle g result with ⟨_ | ⟨waiters, outcome⟩, desk⟩ <;> rfl

end Client

/-- Whoever replaces some credentials at an endpoint sends one request. -/
structure RefreshEndpoint.SendsOnly (e : RefreshEndpoint) (x : Credentials) (r : Http.Request) :
    Prop where
  request : e.request x = .ok r
  /-- A flight sends the request when it begins. -/
  launch : ∀ (c : Client) (g : Generation), c.options.endpoint = e →
    (c.perform (.launch g x)).sent = c.sent ++ [⟨.flight g, r⟩]
  /-- It sends nothing else, whatever the reply. -/
  answer : ∀ (c : Client) (id : Nat) (g : Generation) (reply : Client.Reply),
    c.awaiting.lookup id = some (.flight g) → (c.perform (.answer id reply)).sent = c.sent

theorem RefreshEndpoint.SendsOnly.of_request {e : RefreshEndpoint} {x : Credentials}
    {r : Http.Request} (h : e.request x = .ok r) : e.SendsOnly x r where
  request := h
  launch c g hendpoint := by
    simp only [Client.perform, hendpoint, h]
    rfl
  answer c id g reply howner := by
    simp only [Client.perform, howner, Client.settleFlight_sent]

namespace Session

/-! ### Lives of a session -/

/-- A session may have come about by a sign-in, and refreshes and restarts after it, in
which no write of the store has failed.  The responses with the credentials are listed,
the newest first. -/
inductive Life (name : String) : Session → List Http.Response → Prop where
  /-- Somebody signs in.  What was before does not count. -/
  | signedIn {s : Session} {r : Http.Response} {x : Credentials} {store : Store}
      (issued : Credentials.issuedBy r name = .ok x) (saved : s.store.save x = .ok store) :
      Life name (s.signIn x).2 [r]
  | began {s s' : Session} {rs : List Http.Response} {g : Generation} (life : Life name s rs)
      (start : s.startRefresh = (some g, s')) : Life name s' rs
  | renewed {s s' : Session} {r : Http.Response} {rs : List Http.Response} {g : Generation}
      {x : Credentials} {snapshot : Snapshot} {store : Store} (life : Life name s rs)
      (issued : Credentials.issuedBy r name = .ok x)
      (saved : s.store.save (s.replacement x) = .ok store)
      (finish : s.finishRefresh g x = (some snapshot, s')) : Life name s' (r :: rs)
  | restarted {s : Session} {rs : List Http.Response} (life : Life name s rs) :
      Life name (restore s.store) rs

/-- The credentials in use are the ones in the store, and their refresh token is the last
one that was issued. -/
structure Holds (name : String) (s : Session) (rs : List Http.Response) (x : Credentials) :
    Prop where
  current : s.credentials? = some x
  stored : s.store.load = some x
  last : LastIssued name rs x.refreshToken

section steps

variable {name : String} {s s' : Session} {r : Http.Response} {rs : List Http.Response}
  {g : Generation} {x y : Credentials} {snapshot : Snapshot} {store : Store}

/-- **Step.**  After a sign-in the token is the one that came with it. -/
theorem Holds.signIn (hissued : Credentials.issuedBy r name = .ok x)
    (hsaved : s.store.save x = .ok store) : Holds name (s.signIn x).2 [r] x where
  current := by rw [credentials?, signIn_current, Option.map_some]
  stored := by
    rw [signIn_store, hsaved]
    exact Store.load_of_save (Credentials.accessToken_of_issuedBy hissued) hsaved
  last := by
    have hlast := LastIssued.cons (Issues.of_issuedBy hissued) .never
    rwa [Option.orElse_eq_orElse, Option.orElse_eq_or, Option.or_none] at hlast

/-- **Step.**  While credentials are being replaced they stay in use. -/
theorem Holds.startRefresh (h : Holds name s rs x) (hstart : s.startRefresh = (some g, s')) :
    Holds name s' rs x := by
  unfold Session.startRefresh at hstart
  split at hstart
  · cases hstart
    exact ⟨h.current, h.stored, h.last⟩
  · cases hstart

/-- **Step.**  Credentials that come without a refresh token keep the old one, in the store
as well. -/
theorem Holds.finishRefresh (h : Holds name s rs x) (hissued : Credentials.issuedBy r name = .ok y)
    (hsaved : s.store.save (s.replacement y) = .ok store)
    (hfinish : s.finishRefresh g y = (some snapshot, s')) :
    Holds name s' (r :: rs) (s.replacement y) := by
  unfold Session.finishRefresh at hfinish
  split at hfinish
  · cases hfinish
    -- the access token is the new one in any case
    have hnew : y.accessToken ≠ "" := Credentials.accessToken_of_issuedBy hissued
    have htoken : (s.replacement y).accessToken ≠ "" := hnew
    refine ⟨?_, ?_, ?_⟩
    · rw [credentials?, replaced_current, Option.map_some]
    · rw [replaced_store, hsaved]
      exact Store.load_of_save htoken hsaved
    · have hlast := LastIssued.cons (Issues.of_issuedBy hissued) h.last
      rw [replacement, h.current]
      exact hlast
  · cases hfinish

/-- **Step.**  A restart takes over what was saved. -/
theorem Holds.restore (h : Holds name s rs x) : Holds name (Session.restore s.store) rs x where
  current := by rw [credentials?, (restore_of_some h.stored).2, Option.map_some]
  stored := by rw [restore_store, h.stored]
  last := h.last

/-- **Life.**  The refresh token in use is always the one that was issued last. -/
theorem Life.holds (h : Life name s rs) : ∃ x, Holds name s rs x := by
  induction h with
  | signedIn issued saved => exact ⟨_, .signIn issued saved⟩
  | began life start ih =>
    obtain ⟨x, hx⟩ := ih
    exact ⟨x, hx.startRefresh start⟩
  | renewed life issued saved finish ih =>
    obtain ⟨x, hx⟩ := ih
    exact ⟨_, hx.finishRefresh issued saved finish⟩
  | restarted life ih =>
    obtain ⟨x, hx⟩ := ih
    exact ⟨x, hx.restore⟩

end steps

/-! ### The main theorem -/

/-- **The refresh token survives.**  Take a session after a sign-in and any refreshes and
restarts, none of which has failed to write the store.

Then the refresh token in use is the one that was issued last, if any was.  If it can stand
in a cookie, as every token can that came in one, the next refresh sends just one request:
an empty object by `POST`, for a refresh, with this cookie for its only header. -/
theorem refreshToken_kept {name : String} {s : Session} {rs : List Http.Response}
    (h : Life name s rs) :
    ∃ x, s.credentials? = some x ∧
      (∀ token, LastIssued name rs token ↔ token = x.refreshToken) ∧
      (∀ r ∈ rs, ∀ token, r.SetsCookie name token →
        Http.isFieldValue (name ++ "=" ++ token) = true) ∧
      ∀ e : RefreshEndpoint, e.cookieName = name →
        (∀ token, x.refreshToken = some token →
          Http.isFieldValue (name ++ "=" ++ token) = true) →
        e.SendsOnly x (.refreshWith e.path name x.refreshToken) := by
  obtain ⟨x, hcurrent, -, hlast⟩ := h.holds
  refine ⟨x, hcurrent, ?_, ?_, ?_⟩
  · intro token
    constructor
    · intro htoken
      exact htoken.unique hlast
    · intro htoken
      rw [htoken]
      exact hlast
  · intro r _ token hsets
    exact hsets.isFieldValue
  · intro e hname hlegal
    have hrequest := e.request_of_isFieldValue (x := x) (by rwa [hname])
    rw [hname] at hrequest
    exact .of_request hrequest

/-- The answer to a sign-in, with a refresh token in the second cookie. -/
def cookieResponse : Http.Response :=
  { status := 200
    headers := ⟨[("set-cookie", "lang=en; Path=/"),
      ("set-cookie", " refreshToken=a=\"b c\" ;Secure")]⟩
    body := Text.bytesOf "\x7b\"accessToken\":\"one\",\"type\":\"Bearer\"\x7d" }

/-- The answer to a refresh, without a refresh token. -/
def plainResponse : Http.Response :=
  { status := 200
    body := Text.bytesOf "\x7b\"accessToken\":\"two\",\"type\":\"Bearer\"\x7d" }

/-- The credentials of the first answer. -/
def cookieCredentials : Credentials :=
  ⟨"one", "Bearer", some "a=\"b c\"", none⟩

/-- A session after a sign-in. -/
def youngSession : Session :=
  ((restore .inMemory).signIn cookieCredentials).2

/-- The same session after a refresh and a restart. -/
def agedSession : Session :=
  restore (youngSession.startRefresh.2.replaced ⟨"two", "Bearer", none, none⟩).store

/-- The cookie is still sent as it was received. -/
theorem refreshToken_kept_aged :
    Life "refreshToken" agedSession [plainResponse, cookieResponse] ∧
    agedSession.credentials? = some ⟨"two", "Bearer", some "a=\"b c\"", none⟩ ∧
    RefreshEndpoint.SendsOnly ⟨"/refresh", "refreshToken"⟩ ⟨"two", "Bearer", some "a=\"b c\"", none⟩
      { method := "POST", path := "/refresh", headers := ⟨[("cookie", "refreshToken=a=\"b c\"")]⟩,
        body := some (.object []), kind := .refresh } := by
  have hyoung : Life "refreshToken" youngSession [cookieResponse] := by
    have hissued : Credentials.issuedBy cookieResponse "refreshToken" = .ok cookieCredentials := by
      cbv
    exact .signedIn hissued rfl
  have hlife : Life "refreshToken" agedSession [plainResponse, cookieResponse] := by
    have hissued : Credentials.issuedBy plainResponse "refreshToken" =
        .ok ⟨"two", "Bearer", none, none⟩ := by cbv
    have hbegun : Life "refreshToken" youngSession.startRefresh.2 [cookieResponse] :=
      .began hyoung rfl
    have hfinish := finishRefresh_of_refreshing (s := youngSession.startRefresh.2) (g := .first)
      ⟨"two", "Bearer", none, none⟩ rfl
    exact .restarted (.renewed hbegun hissued rfl hfinish)
  have hcredentials : agedSession.credentials? =
      some ⟨"two", "Bearer", some "a=\"b c\"", none⟩ := by decide +kernel
  obtain ⟨x, hcurrent, -, -, hsends⟩ := refreshToken_kept hlife
  cases hcredentials.symm.trans hcurrent
  refine ⟨hlife, hcredentials, hsends ⟨"/refresh", "refreshToken"⟩ rfl ?_⟩
  intro token htoken
  cases htoken
  decide +kernel

end Session

end SessionKeeper
