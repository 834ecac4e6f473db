import SessionKeeper.Credential.Database

/-! # A tree of files

The part of a file system that databases are kept in: directories, database
files, and other files.  Opening a database makes the directories on the path
to it, and its file if there is none.

Directories are made step by step along a path as it is written.  The engine of
the databases looks for a file by its own reading of the path, in which two dots
take back the name before them whatever that name leads to.

Core Lean 4 only; no Mathlib. -/

namespace SessionKeeper

open Database (Access Locator OpenError Place Relation)
open SessionKeeper.Path (Location Name)

/-- Files and directories. -/
structure Files where
  /-- All directories but the root. -/
  directories : List Location := []
  databases : List (Location × Relation) := []
  /-- Files that are no databases. -/
  others : List Location := []
  /-- Directories in which nothing new can be made. -/
  fixed : List Location := []
  deriving DecidableEq

namespace Files

/-- Whether there is a directory. -/
def isDirectory (f : Files) (location : Location) : Bool :=
  location.isEmpty || f.directories.contains location

/-- Whether there is a file. -/
def isFile (f : Files) (location : Location) : Bool :=
  (f.databases.lookup location).isSome || f.others.contains location

/-- Write a database file. -/
def write (f : Files) (location : Location) (relation : Relation) : Files :=
  { f with databases := (location, relation) :: f.databases.filter (·.1 != location) }

/-! ## Making directories -/

/-- Why there is no way on. -/
inductive Hindrance where
  /-- Nothing has the name. -/
  | missing
  /-- A file has the name, or nothing can have it. -/
  | closed
  deriving DecidableEq, Repr

/-- The directory that a name leads to. -/
def step (f : Files) (location : Location) (name : Name) : Except Hindrance Location :=
  if name = Path.upwards then .ok location.dropLast
  else if Path.nameLimit < name.length then .error .closed
  else if f.isDirectory (location ++ [name]) then .ok (location ++ [name])
  else if f.isFile (location ++ [name]) then .error .closed
  else .error .missing

/-- Make the directory at the end of a way of names, of which the last comes
first, if all directories on the way are there. -/
def makeLast (f : Files) (start : Location) : List Name → Except Hindrance Files
  | [] => .ok f
  | last :: before => do
    let location ← before.reverse.foldlM f.step start
    match f.step location last with
    | .ok _ => return f
    | .error .closed => .error .closed
    | .error .missing =>
      if f.fixed.contains location then .error .closed
      else return { f with directories := (location ++ [last]) :: f.directories }

/-- Make all directories on a way of names, of which the last comes first; the
files afterwards, and whether all are there. -/
def makeAll (f : Files) (start : Location) : List Name → Files × Bool
  | [] => (f, true)
  | last :: before =>
    match f.makeLast start (last :: before) with
    | .ok f => (f, true)
    | .error .closed => (f, false)
    | .error .missing =>
      match makeAll f start before with
      | (f, false) => (f, false)
      | (f, true) =>
        match f.makeLast start (last :: before) with
        | .ok f => (f, true)
        | .error _ => (f, false)

/-- Make a directory, and those on the way to it from another. -/
def makeDirectory (f : Files) (start : Location) (path : String) : Files × Bool :=
  let bytes := Text.bytesOf path
  if bytes.contains 0 ∨ Path.pathLimit < bytes.length then (f, false)
  else f.makeAll (if Path.isAbsolute bytes then [] else start) (Path.names bytes).reverse

/-! ## Finding databases -/

/-- How long the path of a database can be. -/
def databaseLimit : Nat := 512

/-- What stands behind the name of a database in the name of its journal. -/
def journalMark : Name := Database.ascii "-journal"

/-- The location that names lead to from another by the engine's reading, unless
one on the way is too long. -/
def settle? (start : Location) (names : List Name) : Option Location :=
  names.foldlM (fun location name =>
    if name = Path.upwards then some location.dropLast
    else if Path.length (location ++ [name]) < databaseLimit then some (location ++ [name])
    else none) start

/-- Where the engine looks for the file of a path. -/
def locate? (start : Location) (path : List UInt8) : Option Location := do
  let location ← if Path.isAbsolute path then settle? [] (Path.names path)
    else settle? start (Path.names path)
  if databaseLimit < Path.length location + journalMark.length then none
  return location

/-- What stands at a location. -/
def place (f : Files) (location : Location) : Place :=
  match location.getLast? with
  | none => .closed
  | some name =>
    if Path.nameLimit < name.length ∨ f.isDirectory location ∨
        ¬ f.isDirectory location.dropLast then .closed
    else
      match f.databases.lookup location with
      | some relation => .database relation
      | none =>
        if f.others.contains location then .unreadable
        else if f.fixed.contains location.dropLast then .closed
        else .vacant

/-- The name of the journal beside a database. -/
def journalName (location : Location) : Name :=
  location.getLastD [] ++ journalMark

/-- Whether the journal of changes can be kept beside a database. -/
def admitsJournal (f : Files) (location : Location) : Bool :=
  (journalName location).length ≤ Path.nameLimit &&
    !f.isDirectory (location.dropLast ++ [journalName location])

/-! ## Opening databases -/

/-- An opened database: what is in it, and where its changes are kept. -/
structure Opened where
  relation : Relation
  location : Option Location := none
  deriving DecidableEq

/-- Open a database that is looked for from a directory, and make its file if
there is none. -/
def openLocated (f : Files) (start : Location) (name : String) (locator : Locator) :
    Except OpenError Opened × Files :=
  match locator with
  | .memory writes => ((Relation.missing.prepare writes).map fun r => { relation := r }, f)
  | .file path access =>
    match locate? start path with
    | none => (.error (.fileNotOpened name), f)
    | some location =>
      let place := f.place location
      let f := if place = .vacant ∧ access.creates then f.write location .missing else f
      match place.open name access (f.admitsJournal location) with
      | .error e => (.error e, f)
      | .ok relation =>
        if access.writes then (.ok ⟨relation, some location⟩, f.write location relation)
        else (.ok { relation }, f)

/-- Open a database by its name from a directory, and make what it needs. -/
def openDatabase (f : Files) (start : Location) (name : String) :
    Except OpenError Opened × Files :=
  let above := (Path.above? name).getD ""
  match f.makeDirectory start above with
  | (f, false) => (.error (.directoryNotCreated above), f)
  | (f, true) =>
    match Locator.ofName? name with
    | none => (.error (.fileNotOpened name), f)
    | some locator => f.openLocated start name locator

/-- Keep what an opened database holds by now. -/
def keep (f : Files) (o : Opened) (relation : Relation) : Files :=
  match o.location with
  | some location => f.write location relation
  | none => f

end Files

end SessionKeeper
