/-! # Generations and session states

Each time a session gets new credentials they get a generation of their own.
Generations count up from 1 and never come back, so the generation tells old
credentials from new ones.

Core Lean 4 only; no Mathlib. -/

namespace SessionKeeper

/-- The number of the credentials of a session.

It is a natural number, which has no greatest one, in place of a counter of 64 bits.  The
counter begins at 1 and goes up by one with a sign-in or a refresh, and by nothing else; the
two agree below `2 ^ 64 - 1`, and what the counter does there is not described here. -/
structure Generation where
  number : Nat
  deriving DecidableEq, Repr

namespace Generation

/-- The generation of the first credentials. -/
def first : Generation := ⟨1⟩

/-- The generation after a given one. -/
def next (g : Generation) : Generation := ⟨g.number + 1⟩

/-- The generation after the last one handed out, if there was one. -/
def after (last : Option Generation) : Generation :=
  match last with
  | some g => g.next
  | none => first

instance : LT Generation := ⟨fun g h => g.number < h.number⟩
instance : LE Generation := ⟨fun g h => g.number ≤ h.number⟩

theorem lt_iff {g h : Generation} : g < h ↔ g.number < h.number := Iff.rfl

theorem le_iff {g h : Generation} : g ≤ h ↔ g.number ≤ h.number := Iff.rfl

/-- Whether a generation is older than another. -/
def isOlder (g h : Generation) : Bool :=
  g.number < h.number

theorem isOlder_eq_true {g h : Generation} : g.isOlder h = true ↔ g < h :=
  decide_eq_true_iff

theorem isOlder_eq_false {g h : Generation} : g.isOlder h = false ↔ h ≤ g :=
  decide_eq_false_iff_not.trans Nat.not_lt

/-- A generation as text. -/
def text (g : Generation) : String :=
  "gen-" ++ toString g.number

/-- Generations from the oldest to the newest. -/
def sort (gs : List Generation) : List Generation :=
  gs.mergeSort fun g h => g.number ≤ h.number

end Generation

/-- What a session is doing. -/
inductive Session.State where
  | loggedOut
  | loggedIn (g : Generation)
  /-- Signed in, and replacing the credentials of generation `g`. -/
  | refreshing (g : Generation)
  deriving DecidableEq, Repr

namespace Session.State

/-- The generation of the credentials in use. -/
def generation? : State → Option Generation
  | loggedOut => none
  | loggedIn g => some g
  | refreshing g => some g

/-- Whether somebody is signed in. -/
def isLoggedIn : State → Bool
  | loggedOut => false
  | loggedIn _ => true
  | refreshing _ => true

/-- A state as text. -/
def text : State → String
  | loggedOut => "logged out"
  | loggedIn g => "logged in (" ++ g.text ++ ")"
  | refreshing g => "refreshing (" ++ g.text ++ ")"

end Session.State

end SessionKeeper
