import SessionKeeper.CommandLine.Config
import SessionKeeper.CommandLine.Dotenv
import SessionKeeper.Credential.Files
import SessionKeeper.Client.Schedule
import SessionKeeper.Text.Basic

/-! # The program

One run of the program: it reads its configuration, opens the database, and
does what the command says with a client on top of it.

The run is cut where the outside comes in.  `Plan.read` needs arguments and
environment, and `Plan.run` the opened database and a way to send requests;
`runIn` does all of it in a tree of files.

Core Lean 4 only; no Mathlib. -/

namespace SessionKeeper.CommandLine

/-- The name and the version of the program. -/
def versionText : String := "webdict-session 0.1.0\n"

/-- How a run ends, and what it writes. -/
structure Report where
  output : String := ""
  exit : Nat := 0
  /-- The error that ended the run. -/
  error : Option String := none
  /-- What is wrong with the arguments. -/
  complaint : String := ""
  deriving DecidableEq, Repr

/-- The exit code of a run that ends in the middle of its work. -/
def crashCode : Nat := 101

namespace Report

/-- A run that ends with an error. -/
def failure (message : String) : Report :=
  { exit := 1, error := some message }

/-- A run that ends at once and says nothing. -/
def crash : Report :=
  { exit := crashCode }

/-- A run that ends with an error in its arguments, or with what they ask for. -/
def usage (e : UsageError) : Report :=
  match e with
  | .displayVersion => { output := versionText }
  | .displayHelp => {}
  | _ => { exit := 2, complaint := e.message }

end Report

/-- A run whose configuration is sound. -/
structure Plan where
  config : Config
  command : Command
  deriving DecidableEq, Repr

/-- The plan of a run, or the report of a run that has none. -/
def Plan.read (arguments : List String) (environment : Environment) : Except Report Plan :=
  match Arguments.read arguments environment with
  | .error e => .error (.usage e)
  | .ok a =>
    let config := Config.of a environment
    match config.fault? with
    | some fault => .error (.failure fault.message)
    | none => .ok ⟨config, a.command⟩

/-! ## Showing the session -/

/-- How many bytes of an access token are shown. -/
def shownBytes : Nat := 8

/-- The characters that make up the first bytes of a text, if a character ends
where the bytes do. -/
def firstBytes? : Nat → List Char → Option (List Char)
  | _, [] => some []
  | n, c :: rest =>
    if n = 0 then some []
    else if n < c.utf8Size then none
    else (firstBytes? (n - c.utf8Size) rest).map (c :: ·)

/-- The lines on the state of a session. -/
def stateLine (s : Session) : String :=
  "  Session:     " ++ s.state.text ++ "\n"

/-- The lines on the credentials of a session, if the access token can be cut. -/
def credentialLines? (c : Credentials) : Option String := do
  let shown ← firstBytes? shownBytes c.accessToken.toList
  let expiry := match c.expiresAt with
    | some e => "  Expires:     " ++ String.ofList (e.write "+00:00".toList) ++ "\n"
    | none => ""
  return "  Token:       " ++ c.tokenType ++ " " ++ String.ofList shown ++ "...\n" ++
    "  Refreshable: " ++ (if c.refreshToken.isSome then "yes" else "no") ++ "\n" ++ expiry

/-- Show a session.  A token that cannot be cut ends the run after the first
line. -/
def showStatus (s : Session) : Report :=
  match s.credentials? with
  | none => { output := stateLine s }
  | some c =>
    match credentialLines? c with
    | some lines => { output := stateLine s ++ lines }
    | none => { output := stateLine s, exit := crashCode }

/-! ## Running commands -/

section Running

variable {m : Type → Type} [Monad m]

/-- How a service replies to a request. -/
def replyOf (service : Http.Service) (dial : Http.Dial m) (r : Http.Request) : m Client.Reply := do
  match ← service.send dial r with
  | .ok response => return .response response
  | .error fault => return .fault fault

/-- Send what a client waits for, one request after the other, and let it go on
with each reply. -/
def converse (service : Http.Service) (dial : Http.Dial m) (limit : Nat) (s : Client.Schedule) :
    m Client :=
  let s := s.run
  match limit with
  | 0 => return s.client
  | limit + 1 =>
    match s.client.nextAwaited? with
    | none => return s.client
    | some (id, r) => do
      let reply ← replyOf service dial r
      converse service dial limit { s with queue := [.step (.answer id reply)] }

/-- The most requests that one task leads to: two of its own, and a refresh
before each. -/
def requestsOfTask : Nat := 4

/-- A client with one task, run until it has ended. -/
def runTask (c : Client) (service : Http.Service) (dial : Http.Dial m) : m Client :=
  converse service dial requestsOfTask { client := c }

/-- How the task of a client has ended. -/
def outcome? (c : Client) : Option Client.Outcome :=
  c.settled.head?.map (·.2)

/-- The report of a task. -/
def reportOf (c : Client) (succeeded : Client.Outcome → String) : Report :=
  match outcome? c with
  | some (.failed e) => .failure e.message
  | some o => { output := succeeded o }
  | none => .failure "interrupted"

/-- The body of a response as it is shown: indented if it is JSON. -/
def shownBody (r : Http.Response) : String :=
  match r.json? with
  | some v => v.toIndented ++ "\n"
  | none => r.text ++ "\n"

/-- The request that a command asks for. -/
def requestOf (method path : String) (body : Option String) : Except String Http.Request :=
  match Http.Request.ofMethod (Text.upper method) path with
  | .error e => .error (e.message ++ ": " ++ method)
  | .ok r =>
    match body with
    | none => .ok r
    | some text =>
      match Json.Value.read? (Text.glyphsOf text) with
      | some v => .ok (r.withBody v)
      | none => .error "Request body is not valid JSON"

/-- Do what a command says. -/
def runCommand (c : Client) (service : Http.Service) (dial : Http.Dial m) (command : Command) :
    m (Report × Client) := do
  match command with
  | .status => return (showStatus c.session, c)
  | .logout =>
    let c := c.signOut
    return ({ output := stateLine c.session }, c)
  | .login email password =>
    match signInFields email password with
    | .error e => return (.failure e.message, c)
    | .ok (email, password) =>
      let c ← runTask (c.spawnSignIn email password) service dial
      let shown (o : Client.Outcome) : String :=
        match o with
        | .signedIn g => "  Logged in:   " ++ email ++ "\n  Session:     " ++ g.text ++ "\n"
        | _ => ""
      return (reportOf c shown, c)
  | .request method path body =>
    match requestOf method path body with
    | .error message => return (.failure message, c)
    | .ok r =>
      let c ← runTask (c.spawn .exchange (.ok r)) service dial
      let shown (o : Client.Outcome) : String :=
        match o with
        | .response r => shownBody r
        | _ => ""
      return (reportOf c shown, c)

/-- The run of a plan on an opened database: its report, and the database
afterwards. -/
def Plan.run (p : Plan) (relation : Database.Relation) (dial : Http.Dial m) (now : Time.Instant) :
    m (Report × Database.Relation) := do
  match Http.Service.new p.config.baseUrl with
  | .error e => return (.failure e.message, relation)
  | .ok service =>
    let store : Store := ⟨.database relation, false⟩
    let (report, c) ← runCommand (.new p.config.options store now) service dial p.command
    match c.session.store.backing with
    | .database relation => return (report, relation)
    | .memory _ => return (report, relation)

/-- The environment of a run that finds an environment file with a text, or
none. -/
def Environment.withFile (environment : Environment) (text : Option String) :
    Except Report Environment :=
  match text with
  | none => .ok environment
  | some text =>
    match Dotenv.extend? text environment with
    | some environment => .ok environment
    | none => .error .crash

/-- A whole run on a tree of files, begun in a directory: its report, and the
files afterwards. -/
def runIn (files : Files) (directory : Path.Location) (environmentFile : Option String)
    (environment : Environment) (arguments : List String) (dial : Http.Dial m)
    (now : Time.Instant) : m (Report × Files) := do
  match environment.withFile environmentFile >>= Plan.read arguments with
  | .error report => return (report, files)
  | .ok plan =>
    match files.openDatabase directory plan.config.databaseFile with
    | (.error e, files) => return (.failure e.message, files)
    | (.ok opened, files) =>
      let (report, relation) ← plan.run opened.relation dial now
      return (report, files.keep opened relation)

end Running

end SessionKeeper.CommandLine
