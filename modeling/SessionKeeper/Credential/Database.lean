import SessionKeeper.Credential.Locator

/-! # The database of records

Records are kept under keys in the table `auth_kv` of a database file.  A
session only ever looks at one key; what else the table holds, or whether
there is a proper table at all, depends on who else writes the file.

Core Lean 4 only; no Mathlib. -/

namespace SessionKeeper.Database

/-- The key of the record of a session. -/
def sessionKey : String := "auth_context"

/-- The value in a row. -/
inductive Cell where
  | text (content : String)
  /-- Bytes, a number or nothing at all. -/
  | other
  deriving DecidableEq, Repr

/-- What a database has under the name `auth_kv`. -/
inductive Relation where
  /-- Nothing. -/
  | missing
  /-- The table, with its rows; no two have one key. -/
  | table (rows : List (String × Cell))
  /-- A view, which can be read only. -/
  | view (rows : List (String × Cell))
  /-- A table without keys and values. -/
  | misshapen
  deriving DecidableEq, Repr

namespace Relation

/-- The text in the row of a key. -/
def text? (r : Relation) (key : String) : Option String :=
  match r with
  | .table rows | .view rows =>
    match rows.lookup key with
    | some (.text content) => some content
    | _ => none
  | _ => none

/-- The rows of other keys. -/
def without (key : String) (rows : List (String × Cell)) : List (String × Cell) :=
  rows.filter (·.1 != key)

/-- Put a text into the row of a key, in place of what it holds. -/
def insert? (r : Relation) (key content : String) : Option Relation :=
  match r with
  | .table rows => some (.table ((key, .text content) :: without key rows))
  | _ => none

/-- Remove the row of a key, if there is one. -/
def erase? (r : Relation) (key : String) : Option Relation :=
  match r with
  | .table rows => some (.table (without key rows))
  | _ => none

/-- Create the table where nothing has its name. -/
def create (r : Relation) : Relation :=
  match r with
  | .missing => .table []
  | r => r

/-- Remove the table. -/
def drop (r : Relation) : Relation :=
  match r with
  | .view rows => .view rows
  | _ => .missing

/-- Give the row of one key another key, in place of the row that has it. -/
def rename (r : Relation) (key other : String) : Relation :=
  match r with
  | .table rows =>
    match rows.lookup key with
    | some cell => .table ((other, cell) :: without other (without key rows))
    | none => .table rows
  | r => r

/-- What of a database can be read, where nothing can be written. -/
def frozen (r : Relation) : Relation :=
  match r with
  | .table rows => .view rows
  | r => r

end Relation

/-! ## Opening a file -/

/-- What stands where a database file is to be opened.  An empty file is a
database in which nothing is. -/
inductive Place where
  /-- Nothing, and a directory to hold a file. -/
  | vacant
  /-- A directory, or nothing that could be a file. -/
  | closed
  /-- A file that is no database. -/
  | unreadable
  | database (relation : Relation)
  deriving DecidableEq, Repr

/-- Why a database could not be opened. -/
inductive OpenError where
  | directoryNotCreated (parent : String)
  | fileNotOpened (path : String)
  | tableNotCreated
  deriving DecidableEq, Repr

/-- The wording of an error. -/
def OpenError.message : OpenError → String
  | .directoryNotCreated parent => "Failed to create session directory: " ++ parent
  | .fileNotOpened path => "Failed to open SQLite database: " ++ path
  | .tableNotCreated => "Failed to create auth_kv table"

/-- Prepare an opened database: its table is created if it has none, which is a
change like any other. -/
def Relation.prepare (r : Relation) (canChange : Bool) : Except OpenError Relation :=
  if r = .missing ∧ canChange = false then .error .tableNotCreated else .ok r.create

/-- Open what stands at the place of a name.  A file that may not be written can
be read. -/
def Place.open (p : Place) (name : String) (access : Access) (canChange : Bool) :
    Except OpenError Relation :=
  let opened (r : Relation) : Except OpenError Relation :=
    (r.prepare (access.writes && canChange)).map fun r => if access.writes then r else r.frozen
  match p with
  | .vacant => if access.creates then opened .missing else .error (.fileNotOpened name)
  | .closed => .error (.fileNotOpened name)
  | .unreadable => .error .tableNotCreated
  | .database relation => opened relation

end SessionKeeper.Database
