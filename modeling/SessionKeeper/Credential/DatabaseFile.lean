import SessionKeeper.Credential.Database
import SessionKeeper.Json.Printer

/-! # Database files

A database as the text of a file: a JSON object that has the table, if there
is one, under its name.  The rows of a table are an array of keys and values;
a view is such an array in an object of its own, and a table without keys and
values is null.

Core Lean 4 only; no Mathlib. -/

namespace SessionKeeper.Database

open Json (Value)

/-- The name of the table. -/
def tableName : String := "auth_kv"

/-- The name under which a view has its rows. -/
def viewName : String := "view"

/-- A row as a JSON value. -/
def rowValue (row : String × Cell) : Value :=
  match row.2 with
  | .text content => .array [.string row.1, .string content]
  | .other => .array [.string row.1, .null]

/-- The row that a JSON value stands for. -/
def rowOf? (v : Value) : Option (String × Cell) :=
  match v with
  | .array [.string key, .string content] => some (key, .text content)
  | .array [.string key, .null] => some (key, .other)
  | _ => none

namespace Relation

/-- A database as a JSON value. -/
def toValue (r : Relation) : Value :=
  match r with
  | .missing => .object []
  | .table rows => .object [(tableName, .array (rows.map rowValue))]
  | .view rows => .object [(tableName, .object [(viewName, .array (rows.map rowValue))])]
  | .misshapen => .object [(tableName, .null)]

/-- The database that a JSON value stands for. -/
def ofValue? (v : Value) : Option Relation :=
  match v.get? tableName with
  | none =>
    match v with
    | .object _ => some .missing
    | _ => none
  | some .null => some .misshapen
  | some (.array rows) => (rows.mapM rowOf?).map .table
  | some shown =>
    match shown.get? viewName with
    | some (.array rows) => (rows.mapM rowOf?).map .view
    | _ => none

/-- The text of the file of a database. -/
def fileText (r : Relation) : String :=
  r.toValue.toCompact

end Relation

/-- What a file with a text is to somebody who opens it as a database. -/
def Place.ofFile (text : String) : Place :=
  if text.isEmpty then .vacant
  else
    match (Value.read? (Text.glyphsOf text)).bind Relation.ofValue? with
    | some relation => .database relation
    | none => .unreadable

end SessionKeeper.Database
