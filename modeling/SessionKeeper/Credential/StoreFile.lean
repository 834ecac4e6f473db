import SessionKeeper.Credential.Files
import SessionKeeper.Credential.Store

/-! # Stores in use

What is done with a store in the course of time.  A store in memory is there as long as
the program runs.  A store in a file can be closed, and opened again by the name of its
database; at any time the file has what was written last.

Core Lean 4 only; no Mathlib. -/

namespace SessionKeeper

open Database (OpenError)

namespace Store

/-- What can be done with a store. -/
inductive Operation where
  | load
  | save (c : Credentials)
  | clear
  /-- Others put a text in the place of the record. -/
  | put (text : String)
  /-- A store in a file is closed and opened again. -/
  | reopen

/-- What comes of it. -/
inductive Answer where
  | loaded (c : Option Credentials)
  | done
  | failed (e : WriteError)
  | notOpened (e : OpenError)
  deriving DecidableEq

/-- The answer to a write, and the store afterwards. -/
def answer (s : Store) (written : Except WriteError Store) : Answer × Store :=
  match written with
  | .ok s' => (.done, s')
  | .error e => (.failed e, s)

/-- Something is done with a store that stays open. -/
def operate (s : Store) (o : Operation) : Answer × Store :=
  match o with
  | .load => (.loaded s.load, s)
  | .save c => s.answer (s.save c)
  | .clear => s.answer s.clear
  | .put text => s.answer (s.put text)
  | .reopen => (.done, s)

/-- Things are done one after another. -/
def after (s : Store) (past : List Operation) : Store :=
  past.foldl (fun s o => (s.operate o).2) s

end Store

/-- A store in the file of a database. -/
structure StoreFile where
  files : Files
  /-- The directory from which the file is looked for. -/
  start : Path.Location
  name : String
  opened : Files.Opened

namespace StoreFile

/-- The store that is open. -/
def store (f : StoreFile) : Store :=
  ⟨.database f.opened.relation, false⟩

/-- The file gets what the store holds by now. -/
def keep (f : StoreFile) (s : Store) : StoreFile :=
  match s.backing with
  | .database relation =>
    { f with files := f.files.keep f.opened relation, opened := { f.opened with relation } }
  | .memory _ => f

/-- Something is done with a store in a file. -/
def operate (f : StoreFile) (o : Store.Operation) : Store.Answer × StoreFile :=
  match o with
  | .reopen =>
    match f.files.openDatabase f.start f.name with
    | (.ok opened, files) => (.done, { f with files, opened })
    | (.error e, files) => (.notOpened e, { f with files })
  | o =>
    let (answer, s) := f.store.operate o
    (answer, f.keep s)

/-- Things are done one after another. -/
def after (f : StoreFile) (past : List Store.Operation) : StoreFile :=
  past.foldl (fun f o => (f.operate o).2) f

end StoreFile

end SessionKeeper
