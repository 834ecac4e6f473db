/-! # Reading arguments

A command has options, which take a value, and flags, which do not; it has
positional arguments or subcommands.  An option is written `--name value`,
`--name=value`, `-n value`, `-nvalue` or `-n=value`; behind `--` everything is
positional.  A text that begins with a hyphen is never the value of an option
before it.

The value of an option is settled when the next option, flag or positional
argument begins, or at the end.  Then it must be there, be the only one of its
option, and pass the option's check.  The order in which faults are noticed
follows from that.

Core Lean 4 only; no Mathlib. -/

namespace SessionKeeper.CommandLine

/-- Why arguments are refused, or what they ask for instead of a run. -/
inductive UsageError where
  | displayHelp
  | displayVersion
  | displayHelpOnMissing
  | unknownArgument
  | invalidValue
  | valueValidation
  | invalidSubcommand
  | missingSubcommand
  | missingRequiredArgument
  | argumentConflict
  | tooManyValues
  deriving DecidableEq, Repr

/-- The wording of a refusal; nothing where the arguments are not at fault. -/
def UsageError.message : UsageError → String
  | .displayHelp => ""
  | .displayVersion => ""
  | .displayHelpOnMissing => "a command is needed"
  | .unknownArgument => "unexpected argument"
  | .invalidValue => "an option needs a value"
  | .valueValidation => "invalid value of an option"
  | .invalidSubcommand => "unknown command"
  | .missingSubcommand => "a command is needed"
  | .missingRequiredArgument => "an argument is missing"
  | .argumentConflict => "an option is given twice"
  | .tooManyValues => "a flag takes no value"

/-- An option that takes a value. -/
structure OptionSpec where
  name : String
  short : Option Char := none
  /-- The environment variable that stands in for the option. -/
  envName : Option String := none
  /-- Whether a text can be its value. -/
  accepts : String → Bool := fun _ => true

/-- What a command understands. -/
structure Grammar where
  options : List OptionSpec := []
  hasVersion : Bool := false
  /-- How many positional arguments there are; all of them are needed. -/
  positionals : Nat := 0
  subcommands : List String := []

/-- Arguments as far as they have been read. -/
structure Reading where
  /-- The values of options, by name. -/
  values : List (String × String) := []
  /-- Positional arguments, newest first. -/
  positionals : List String := []
  /-- The option whose value is not settled, and its value. -/
  pending : Option (OptionSpec × Option String) := none
  /-- Whether everything is positional from here. -/
  trailing : Bool := false

namespace Reading

/-- Add the value of an option. -/
def assign (r : Reading) (o : OptionSpec) (value : String) : Except UsageError Reading :=
  if (r.values.lookup o.name).isSome then .error .argumentConflict
  else if o.accepts value then .ok { r with values := r.values ++ [(o.name, value)] }
  else .error .valueValidation

/-- Settle the pending option. -/
def resolve (r : Reading) : Except UsageError Reading :=
  match r.pending with
  | none => .ok r
  | some (_, none) => .error .invalidValue
  | some (o, some value) => { r with pending := none }.assign o value

/-- An option begins, perhaps with its value. -/
def openOption (r : Reading) (o : OptionSpec) (value : Option String) :
    Except UsageError Reading := do
  let r ← r.resolve
  match value with
  | some value => r.assign o value
  | none => return { r with pending := some (o, none) }

/-- A flag, which ends the reading. -/
def flag {α : Type} (r : Reading) (e : UsageError) : Except UsageError α := do
  discard r.resolve
  .error e

/-- Whether the next text is the value of the pending option. -/
def awaitsValue (r : Reading) : Bool :=
  match r.pending with
  | some (_, none) => true
  | _ => false

/-- Read an argument that begins with two hyphens, given what follows them. -/
def long (r : Reading) (g : Grammar) (cs : List Char) : Except UsageError Reading :=
  let name := String.ofList (cs.takeWhile (· != '='))
  let value := match cs.dropWhile (· != '=') with
    | [] => none
    | _ :: rest => some (String.ofList rest)
  match g.options.find? (·.name == name) with
  | some o => r.openOption o value
  | none =>
    if name == "help" || (g.hasVersion && name == "version") then
      if value.isSome then .error .tooManyValues
      else r.flag (if name == "help" then .displayHelp else .displayVersion)
    else .error .unknownArgument

/-- Read an argument that begins with one hyphen, given what follows it. -/
def short (r : Reading) (g : Grammar) : List Char → Except UsageError Reading
  | [] => .ok r
  | c :: rest =>
    match g.options.find? (·.short == some c) with
    | some o =>
      match rest with
      | [] => r.openOption o none
      | '=' :: value => r.openOption o (some (String.ofList value))
      | value => r.openOption o (some (String.ofList value))
    | none =>
      if c = 'h' then r.flag .displayHelp
      else if g.hasVersion ∧ c = 'V' then r.flag .displayVersion
      else .error .unknownArgument

/-- Read a positional argument. -/
def positional (r : Reading) (g : Grammar) (text : String) : Except UsageError Reading :=
  if r.positionals.length < g.positionals then do
    let r ← r.resolve
    return { r with positionals := text :: r.positionals }
  else if g.subcommands.isEmpty ∨ (r.trailing ∧ text ∈ g.subcommands) then .error .unknownArgument
  else .error .invalidSubcommand

/-- Read one argument that is not the name of a subcommand. -/
def next (r : Reading) (g : Grammar) (text : String) : Except UsageError Reading :=
  if r.trailing then r.positional g text
  else match text.toList with
    | ['-', '-'] => .ok { r with trailing := true }
    | '-' :: '-' :: cs => r.long g cs
    | '-' :: c :: cs => r.short g (c :: cs)
    | _ =>
      match r.pending with
      | some (o, none) => .ok { r with pending := some (o, some text) }
      | _ => r.positional g text

/-- Read arguments up to the name of a subcommand, which is returned with the
arguments behind it. -/
def all (r : Reading) (g : Grammar) :
    List String → Except UsageError (Reading × Option (String × List String))
  | [] => .ok (r, none)
  | text :: rest =>
    if !r.trailing && !r.awaitsValue && g.subcommands.contains text then .ok (r, some (text, rest))
    else do (← r.next g text).all g rest

/-- Add the options that only the environment gives. -/
def addVariables (r : Reading) (g : Grammar) (environment : List (String × String)) :
    Except UsageError Reading :=
  g.options.foldlM (fun r o =>
    match r.values.lookup o.name, o.envName.bind (List.lookup · environment) with
    | none, some value => r.assign o value
    | _, _ => .ok r) r

/-- The value of an option. -/
def value? (r : Reading) (name : String) : Option String :=
  r.values.lookup name

end Reading

/-- Read all arguments of a command without subcommands. -/
def Grammar.readLeaf (g : Grammar) (arguments : List String) : Except UsageError Reading := do
  let (r, _) ← ({} : Reading).all g arguments
  let r ← r.resolve
  if r.positionals.length < g.positionals then .error .missingRequiredArgument
  return { r with positionals := r.positionals.reverse }

end SessionKeeper.CommandLine
