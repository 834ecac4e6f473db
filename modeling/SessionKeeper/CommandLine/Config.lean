import SessionKeeper.CommandLine.Arguments
import SessionKeeper.Client.Task
import SessionKeeper.Http.Service

/-! # Configuration

What the program is told by its arguments and its environment.  An option on
the command line counts for more than its environment variable, and that for
more than the default.

Core Lean 4 only; no Mathlib. -/

namespace SessionKeeper.CommandLine

/-- Variables of the environment. -/
abbrev Environment := List (String × String)

/-- A number of 64 bits in decimal, with or without a plus sign. -/
def readWord? (text : String) : Option Nat :=
  let digits := match text.toList with
    | '+' :: rest => rest
    | cs => cs
  if digits.isEmpty ∨ ¬ digits.all Char.isDigit then none
  else
    let n := digits.foldl (fun n c => n * 10 + (c.toNat - '0'.toNat)) 0
    if n < Nat.pow 2 64 then some n else none

/-! ## The command line -/

/-- What the program is to do. -/
inductive Command where
  /-- Sign in. -/
  | login (email password : Option String)
  /-- Drop the credentials. -/
  | logout
  /-- Show the session. -/
  | status
  /-- Send a request and show its answer. -/
  | request (method path : String) (body : Option String)
  deriving DecidableEq, Repr

/-- The options of the program itself. -/
def mainGrammar : Grammar :=
  { hasVersion := true
    subcommands := ["login", "logout", "status", "request", "help"]
    options :=
      [{ name := "base-url", short := some 'u', envName := some "API_BASE_URL" },
        { name := "auth-path", envName := some "AUTH_PATH" },
        { name := "refresh-path", envName := some "REFRESH_PATH" },
        { name := "db-file", short := some 'd', envName := some "SESSION_DB_FILE" },
        { name := "refresh-cookie-name", envName := some "REFRESH_COOKIE_NAME" },
        { name := "log-level", envName := some "LOG_LEVEL" },
        { name := "http-timeout", envName := some "HTTP_REQUEST_TIMEOUT",
          accepts := fun text => (readWord? text).isSome }] }

/-- The variables that the program looks at. -/
def variableNames : List String :=
  mainGrammar.options.filterMap (·.envName) ++
    ["TOKEN_REFRESH_THRESHOLD", "HTTP_MAX_CONNECTIONS", "HTTP_CONNECT_TIMEOUT", "HOME",
      "XDG_DATA_HOME"]

/-- The options of a sign-in. -/
def loginGrammar : Grammar :=
  { options := [{ name := "email", short := some 'e' }, { name := "password", short := some 'p' }] }

/-- The options of a request, whose method and path are positional. -/
def requestGrammar : Grammar :=
  { options := [{ name := "body", short := some 'b' }], positionals := 2 }

/-- The help on a subcommand, or the fault of asking for one that is not there. -/
def helpOn (g : Grammar) (names : List String) : UsageError :=
  match names with
  | [] => .displayHelp
  | [name] => if g.subcommands.contains name then .displayHelp else .invalidSubcommand
  | _ => .invalidSubcommand

/-- The command that a subcommand and its arguments give. -/
def readCommand (name : String) (arguments : List String) : Except UsageError Command := do
  match name with
  | "login" =>
    let r ← loginGrammar.readLeaf arguments
    return .login (r.value? "email") (r.value? "password")
  | "logout" => do
    discard (Grammar.readLeaf {} arguments)
    return .logout
  | "status" => do
    discard (Grammar.readLeaf {} arguments)
    return .status
  | "request" =>
    let r ← requestGrammar.readLeaf arguments
    match r.positionals with
    | [method, path] => return .request method path (r.value? "body")
    | _ => .error .missingRequiredArgument
  | _ => .error (helpOn mainGrammar arguments)

/-- What the command line says. -/
structure Arguments where
  baseUrl : String
  signInPath : String
  refreshPath : String
  databaseFile : Option String
  refreshCookieName : String
  logLevel : String
  requestTimeout : Nat
  command : Command
  deriving DecidableEq, Repr

/-- Read the command line. -/
def Arguments.read (arguments : List String) (environment : Environment) :
    Except UsageError Arguments := do
  let (r, found) ← ({} : Reading).all mainGrammar arguments
  let command ← found.mapM fun s => readCommand s.1 s.2
  let r ← r.resolve
  let r ← r.addVariables mainGrammar environment
  match command with
  | none => .error (if r.values.isEmpty then .displayHelpOnMissing else .missingSubcommand)
  | some command =>
    let standard : Client.Options := {}
    return {
      baseUrl := (r.value? "base-url").getD "http://localhost:8080"
      signInPath := (r.value? "auth-path").getD standard.signInPath
      refreshPath := (r.value? "refresh-path").getD standard.refreshPath
      databaseFile := r.value? "db-file"
      refreshCookieName := (r.value? "refresh-cookie-name").getD standard.refreshCookieName
      logLevel := (r.value? "log-level").getD "info"
      requestTimeout := ((r.value? "http-timeout").bind readWord?).getD 30
      command }

/-! ## Paths -/

/-- A path below a directory.  An absolute path stands for itself. -/
def joinPath (directory path : String) : String :=
  if path.toList.head? = some '/' then path
  else if directory.isEmpty ∨ directory.toList.getLast? = some '/' then directory ++ path
  else directory ++ "/" ++ path

/-- The home directory. -/
def home (environment : Environment) : String :=
  match environment.lookup "HOME" with
  | some directory => if directory.isEmpty then "/root" else directory
  | none => "/root"

/-- The directory for the data of programs. -/
def dataDirectory (environment : Environment) : String :=
  match environment.lookup "XDG_DATA_HOME" with
  | some directory =>
    if directory.toList.head? = some '/' then directory
    else joinPath (home environment) ".local/share"
  | none => joinPath (home environment) ".local/share"

/-- A path, in which a tilde before the first slash is the home directory. -/
def expandHome (environment : Environment) (path : String) : String :=
  match path.toList with
  | '~' :: '/' :: rest => joinPath (home environment) (String.ofList rest)
  | _ => path

/-- Where the database is if nobody says otherwise. -/
def standardDatabase (environment : Environment) : String :=
  joinPath (joinPath (dataDirectory environment) "webdict") "session.sqlite3"

/-! ## The configuration -/

/-- The longest refresh threshold, one day. -/
def maxRefreshThreshold : Nat := 86400

/-- A configuration. -/
structure Config where
  baseUrl : String
  signInPath : String
  refreshPath : String
  refreshCookieName : String
  databaseFile : String
  refreshThreshold : Nat
  maxConnections : Nat
  connectTimeout : Nat
  requestTimeout : Nat
  logLevel : String
  deriving DecidableEq, Repr

/-- A variable that is a number, or the default where it is none. -/
def variableOr (environment : Environment) (name : String) (standard : Nat) : Nat :=
  ((environment.lookup name).bind readWord?).getD standard

/-- The configuration of arguments in an environment. -/
def Config.of (a : Arguments) (environment : Environment) : Config :=
  { baseUrl := Http.withoutSlashes a.baseUrl
    signInPath := a.signInPath
    refreshPath := a.refreshPath
    refreshCookieName := a.refreshCookieName
    databaseFile := match a.databaseFile with
      | some path => expandHome environment path
      | none => standardDatabase environment
    refreshThreshold := variableOr environment "TOKEN_REFRESH_THRESHOLD" 0
    maxConnections := variableOr environment "HTTP_MAX_CONNECTIONS" 20
    connectTimeout := variableOr environment "HTTP_CONNECT_TIMEOUT" 10
    requestTimeout := a.requestTimeout
    logLevel := a.logLevel }

/-- Why a configuration is of no use. -/
inductive ConfigError where
  | baseUrl (url : String)
  | path (name value : String)
  | cookieName
  | connections
  | threshold (seconds : Nat)
  deriving DecidableEq, Repr

/-- The wording of an error. -/
def ConfigError.message : ConfigError → String
  | .baseUrl url => "API_BASE_URL must be an http(s) URL: " ++ url
  | .path name value => name ++ " must start with '/': " ++ value
  | .cookieName => "REFRESH_COOKIE_NAME cannot be empty"
  | .connections => "HTTP_MAX_CONNECTIONS must be at least 1"
  | .threshold seconds =>
    "TOKEN_REFRESH_THRESHOLD must be at most " ++ toString maxRefreshThreshold ++ " seconds: " ++
      toString seconds

namespace Config

/-- The first fault of a configuration. -/
def fault? (c : Config) : Option ConfigError :=
  if ¬ "http://".toList.isPrefixOf c.baseUrl.toList ∧
      ¬ "https://".toList.isPrefixOf c.baseUrl.toList then some (.baseUrl c.baseUrl)
  else if c.signInPath.toList.head? ≠ some '/' then some (.path "AUTH_PATH" c.signInPath)
  else if c.refreshPath.toList.head? ≠ some '/' then some (.path "REFRESH_PATH" c.refreshPath)
  else if c.refreshCookieName.isEmpty then some .cookieName
  else if c.maxConnections = 0 then some .connections
  else if maxRefreshThreshold < c.refreshThreshold then some (.threshold c.refreshThreshold)
  else none

/-- The settings of the client. -/
def options (c : Config) : Client.Options :=
  { signInPath := c.signInPath
    refreshPath := c.refreshPath
    refreshCookieName := c.refreshCookieName
    refreshThreshold := c.refreshThreshold }

end Config

/-! ## Who signs in -/

/-- Why nobody can sign in. -/
inductive PromptError where
  | email
  | password
  | empty
  deriving DecidableEq, Repr

/-- The wording of an error. -/
def PromptError.message : PromptError → String
  | .email => "Failed to read email"
  | .password => "Failed to read password"
  | .empty => "Email and password cannot be empty"

/-- Who signs in, where nobody can be asked. -/
def signInFields (email password : Option String) : Except PromptError (String × String) :=
  match email, password with
  | none, _ => .error .email
  | some _, none => .error .password
  | some email, some password =>
    if email.isEmpty || password.isEmpty then .error .empty else .ok (email, password)

end SessionKeeper.CommandLine
