import SessionKeeper.Credential.Record
import SessionKeeper.Credential.Database

/-! # Credential stores

A store keeps the record of one session, in memory or in a database, across
the changes of that session.  Reading never fails: a record that cannot be
read, or whose access token is empty, counts as no record.  Writing may fail
and then changes nothing.

Core Lean 4 only; no Mathlib. -/

namespace SessionKeeper

open Database (Relation)

/-- Where a store keeps its record. -/
inductive Backing where
  | memory (record : Option String)
  | database (relation : Relation)
  deriving DecidableEq

/-- A credential store. -/
structure Store where
  backing : Backing
  /-- Whether every write fails. -/
  refusing : Bool := false
  deriving DecidableEq

/-- Why a record was not written. -/
inductive WriteError where
  | diskFull
  | notSaved
  | notCleared
  deriving DecidableEq, Repr

/-- The wording of an error. -/
def WriteError.message : WriteError → String
  | .diskFull => "disk full"
  | .notSaved => "Failed to save auth context to SQLite"
  | .notCleared => "Failed to clear auth context from SQLite"

/-- The credentials that a kept record stands for. -/
def Credentials.ofKept? (text : String) : Option Credentials :=
  match Credentials.readRecord? (Text.glyphsOf text) with
  | some c => if c.accessToken.isEmpty then none else some c
  | none => none

namespace Store

/-- A store in memory that holds nothing. -/
def inMemory : Store := ⟨.memory none, false⟩

/-- The text of the record, if there is one. -/
def text? (s : Store) : Option String :=
  match s.backing with
  | .memory record => record
  | .database relation => relation.text? Database.sessionKey

/-- The credentials that the store holds. -/
def load (s : Store) : Option Credentials :=
  s.text?.bind Credentials.ofKept?

/-- Write a text as the record. -/
def put (s : Store) (text : String) : Except WriteError Store :=
  if s.refusing then .error .diskFull
  else match s.backing with
    | .memory _ => .ok { s with backing := .memory (some text) }
    | .database relation =>
      match relation.insert? Database.sessionKey text with
      | some relation => .ok { s with backing := .database relation }
      | none => .error .notSaved

/-- Write the record of some credentials. -/
def save (s : Store) (c : Credentials) : Except WriteError Store :=
  s.put c.record

/-- Remove the record. -/
def clear (s : Store) : Except WriteError Store :=
  if s.refusing then .error .diskFull
  else match s.backing with
    | .memory _ => .ok { s with backing := .memory none }
    | .database relation =>
      match relation.erase? Database.sessionKey with
      | some relation => .ok { s with backing := .database relation }
      | none => .error .notCleared

/-- The store after an attempt to write: a write that fails changes nothing. -/
def attempt (s : Store) (written : Except WriteError Store) : Store :=
  match written with
  | .ok s' => s'
  | .error _ => s

end Store

end SessionKeeper
