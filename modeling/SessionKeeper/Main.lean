import SessionKeeper.CommandLine.Dotenv
import SessionKeeper.CommandLine.Program
import SessionKeeper.Credential.DatabaseFile
import SessionKeeper.Http.Jar
import Std.Async
import Std.Time

/-! # The command line

Everything that touches the outside: arguments, environment, clock, database
file and network.  What is done with them is said elsewhere; this module only
carries it out.

Requests travel over plain connections, one for each; an address of `https`
cannot be reached. -/

namespace SessionKeeper.CommandLine

open Std.Async (Async)

/-- The result of an action, or `none` if it fails. -/
def attempt {α : Type} (action : IO α) : IO (Option α) :=
  try return some (← action) catch _ => return none

/-- The text of the environment file in a directory or the nearest one above. -/
partial def readEnvironmentFile (directory : String) : IO (Option String) := do
  let file := joinPath directory ".env"
  match ← attempt (IO.FS.readFile file) with
  | some text => return some text
  | none =>
    match Path.above? directory with
    | none => return none
    | some above => readEnvironmentFile above

/-- The variables of the given names. -/
def readVariables (names : List String) : IO Environment :=
  names.filterMapM fun name => return (← IO.getEnv name).map (name, ·)

/-- The environment of the program, with the variables of an environment file. -/
def readEnvironment (directory : String) : IO (Except Report Environment) := do
  let text ← readEnvironmentFile directory
  let names := (variableNames ++ (text.map Dotenv.mentioned).getD []).eraseDups
  return (← readVariables names).withFile text

/-- What stands at an absolute path where a database is to be opened. -/
def findPlace (path : String) : IO Database.Place := do
  let file := (← IO.currentDir) / path
  if ← file.isDir then return .closed
  if ← file.pathExists then
    match ← attempt (IO.FS.readFile file) with
    | some text => return .ofFile text
    | none => return .unreadable
  let holder := (← IO.currentDir) / (Path.above? path).getD path
  return if ← holder.isDir then .vacant else .closed

/-- Make the directories above the file of a database. -/
def makeDirectories (name : String) : IO (Except Database.OpenError Unit) := do
  let above := (Path.above? name).getD ""
  if above.isEmpty then return .ok ()
  match ← attempt (IO.FS.createDirAll above) with
  | some () => return .ok ()
  | none => return .error (.directoryNotCreated above)

/-- Open a database by its name; what is in it, and the path of the file that
keeps its changes. -/
def openDatabase (name : String) :
    IO (Except Database.OpenError (Database.Relation × Option String)) := do
  match ← makeDirectories name with
  | .error e => return .error e
  | .ok () =>
    match Database.Locator.ofName? name with
    | none => return .error (.fileNotOpened name)
    | some (.memory writes) => return (Database.Relation.missing.prepare writes).map (·, none)
    | some (.file path access) =>
      let start := Path.names (Text.bytesOf (← IO.currentDir).toString)
      match Files.locate? start path with
      | none => return .error (.fileNotOpened name)
      | some location =>
        match Path.text? location with
        | none => return .error (.fileNotOpened name)
        | some file =>
          let canChange := (Files.journalName location).length ≤ Path.nameLimit
          return ((← findPlace file).open name access canChange).map fun relation =>
            (relation, if access.writes then some file else none)

/-- Write a database to the file that keeps it. -/
def writeDatabase (file : Option String) (relation : Database.Relation) : IO Unit := do
  if let some file := file then IO.FS.writeFile file relation.fileText

/-- The time. -/
def readClock : IO Time.Instant := do
  let now ← Std.Time.Timestamp.now
  match Time.Instant.ofNanos? now.toNanosecondsSinceUnixEpoch.val with
  | some instant => return instant
  | none => throw (IO.userError "the clock has left the calendar")

/-- All that comes over a connection until the other side closes it. -/
partial def receiveAll (socket : Std.Async.TCP.Socket.Client) (seen : ByteArray) :
    Async ByteArray := do
  match ← socket.recv? 65536 with
  | some bytes => receiveAll socket (seen ++ bytes)
  | none => return seen

/-- Connect to the first address of a host that accepts. -/
def connectTo (port : UInt16) : List Std.Net.IPAddr → Async Std.Async.TCP.Socket.Client
  | [] => throw (IO.userError "no address accepts a connection")
  | ip :: rest => do
    let socket ← Std.Async.TCP.Socket.Client.mk
    try
      socket.connect (match ip with
        | .v4 ip => .v4 ⟨ip, port⟩
        | .v6 ip => .v6 ⟨ip, port⟩)
      return socket
    catch _ => connectTo port rest

/-- Send a request over a connection of its own, and wait for what comes back. -/
def exchange (a : Http.Address) (r : Http.Request) :
    Async (Except Http.TransportFault ByteArray) := do
  let host := String.ofList ((a.host.getD []).filter fun c => c != '[' && c != ']')
  let port := a.port.getD 80
  let connected ← try
      let found ← Std.Async.DNS.getAddrInfo host (toString port)
      pure (some (← connectTo port.toUInt16 found.toList))
    catch _ => pure none
  match connected with
  | none => return .error (.connect a.sendFailure)
  | some socket =>
    try
      socket.send ⟨(r.bytes a).toArray⟩
      return .ok (← receiveAll socket .empty)
    catch _ => return .error (.invalidRequest a.sendFailure)

/-- Wait for some seconds, and give up on a request. -/
def giveUp (seconds : Nat) (a : Http.Address) : Async (Except Http.TransportFault ByteArray) := do
  Std.Async.sleep (.ofNat (1000 * seconds))
  return .error (.timeout a.sendFailure)

/-- The dial over the network, with the time that a request may take. -/
def networkDial (seconds : Nat) : Http.Dial IO := fun a r => do
  if a.scheme ≠ "http".toList then return .error (.connect a.sendFailure)
  have : Inhabited (Except Http.TransportFault ByteArray) := ⟨.ok .empty⟩
  match ← (Async.race (exchange a r) (giveUp seconds a)).block with
  | .ok bytes => return Http.Response.ofBytes a bytes.toList
  | .error fault => return .error fault

/-- Carry out a plan. -/
def Plan.carryOut (plan : Plan) : IO Report := do
  match ← openDatabase plan.config.databaseFile with
  | .error e => return .failure e.message
  | .ok (relation, file) =>
    writeDatabase file relation
    let dial := (networkDial plan.config.requestTimeout).withCookies
    let (report, after) ← (plan.run relation dial (← readClock)).run' {}
    writeDatabase file after
    return report

/-- Tell what a run has come to. -/
def Report.tell (r : Report) : IO UInt32 := do
  IO.print r.output
  if let some message := r.error then IO.eprintln ("Error: " ++ message)
  unless r.complaint.isEmpty do IO.eprintln ("error: " ++ r.complaint)
  return r.exit.toUInt32

end SessionKeeper.CommandLine

/-- Run the program. -/
def main (arguments : List String) : IO UInt32 := do
  let environment ← SessionKeeper.CommandLine.readEnvironment (← IO.currentDir).toString
  match environment >>= SessionKeeper.CommandLine.Plan.read arguments with
  | .error report => report.tell
  | .ok plan => (← plan.carryOut).tell
