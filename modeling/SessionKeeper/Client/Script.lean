import SessionKeeper.Client.Task

/-! # Scripted replies

A script answers requests by rules.  The first rule that fits a request
answers it; a rule may be good for a number of times only.  What no rule fits
is left to a last resort, and a request that this does not answer either waits.

Core Lean 4 only; no Mathlib. -/

namespace SessionKeeper.Client

/-- A rule: which requests it fits, and what it answers. -/
structure Rule where
  path : Option String := none
  kind : Option Http.Kind := none
  /-- The authorization that the request has to carry, or that there is none. -/
  authorization : Option (Option String) := none
  /-- How often the rule is still good; without a number, always. -/
  times : Option Nat := none
  reply : Reply

/-- Whether a rule fits a request. -/
def Rule.fits (rule : Rule) (r : Http.Request) : Bool :=
  rule.path.all (· == r.path) && rule.kind.all (· == r.kind) &&
    rule.authorization.all (· == r.authorization?) && rule.times != some 0

/-- A rule after it was used. -/
def Rule.used (rule : Rule) : Rule :=
  { rule with times := rule.times.map (· - 1) }

/-- Rules, and the replies to requests that none of them fits. -/
structure Script where
  rules : List Rule := []
  lastResort : Http.Request → Option Reply := fun _ => none

/-- The reply of the first rule that fits, and the rules after its use. -/
def answerBy (r : Http.Request) : List Rule → Option (Reply × List Rule)
  | [] => none
  | rule :: rest =>
    if rule.fits r then some (rule.reply, rule.used :: rest)
    else (answerBy r rest).map fun (reply, rest) => (reply, rule :: rest)

/-- The reply to a request, if the script has one. -/
def Script.answer? (s : Script) (r : Http.Request) : Option (Reply × Script) :=
  match answerBy r s.rules with
  | some (reply, rules) => some (reply, { s with rules })
  | none => (s.lastResort r).map (·, s)

/-- A meeting point.  Requests with a certain authorization, or with none, are
held until enough of them are there. -/
structure Gate where
  parties : Nat
  authorization : Option String
  /-- The requests that are held, in the order in which they came. -/
  held : List Nat := []

/-- Whether a request has to wait for others. -/
def Gate.concerns (g : Gate) (r : Http.Request) : Bool :=
  g.authorization == r.authorization?

end SessionKeeper.Client
