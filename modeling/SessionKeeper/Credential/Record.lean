import SessionKeeper.Credential.Basic
import SessionKeeper.Json.Printer
import SessionKeeper.Time.Stamp

/-! # Credential records

Credentials are kept, and issued, as a JSON record.  Its writer gives every
pair of credentials one text.  Its reader takes more: the members of an object
in any order with unknown ones between them, the name `type` for `tokenType`,
or an array of the fields in their order.

A record is refused if a field comes twice, if one of the two required fields
is missing, or if a field has a value of the wrong kind.

Core Lean 4 only; no Mathlib. -/

namespace SessionKeeper

open Json (Tree)
open Time (Instant)

/-! ## Writing -/

/-- The members of the record of some credentials, in order. -/
def Credentials.recordMembers (c : Credentials) : List (String × String) :=
  [("accessToken", c.accessToken), ("tokenType", c.tokenType)] ++
    (c.refreshToken.map (("refreshToken", ·))).toList ++
    (c.expiresAt.map (("expiresAt", ·.stamp))).toList

/-- The record of some credentials, as characters. -/
def Credentials.writeRecord (c : Credentials) : List Char :=
  '\x7b' :: (Json.commaSeparated
    (c.recordMembers.map fun m => Json.quote m.1 ++ ':' :: Json.quote m.2) ++ ['\x7d'])

/-- The record of some credentials. -/
def Credentials.record (c : Credentials) : String :=
  String.ofList c.writeRecord

/-! ## Reading -/

namespace Record

/-- The fields of a record. -/
inductive Field where
  | accessToken
  | tokenType
  | refreshToken
  | expiresAt
  deriving DecidableEq, Repr

/-- The fields in the order in which an array lists them. -/
def Field.all : List Field :=
  [.accessToken, .tokenType, .refreshToken, .expiresAt]

/-- The field that a key names. -/
def Field.ofKey? (key : String) : Option Field :=
  match key with
  | "accessToken" => some .accessToken
  | "tokenType" => some .tokenType
  | "type" => some .tokenType
  | "refreshToken" => some .refreshToken
  | "expiresAt" => some .expiresAt
  | _ => none

/-- The fields of a record that have been read. -/
structure Draft where
  accessToken : Option String := none
  tokenType : Option String := none
  refreshToken : Option (Option String) := none
  expiresAt : Option (Option Instant) := none

/-- The text of a value that has to be one. -/
def text? (t : Tree) : Option String :=
  match t with
  | .string text => text
  | _ => none

/-- The text of a value that is a text or null. -/
def optionalText? (t : Tree) : Option (Option String) :=
  match t with
  | .null => some none
  | .string (some text) => some (some text)
  | _ => none

/-- The instant of a value that is a time stamp or null. -/
def optionalInstant? (t : Tree) : Option (Option Instant) :=
  match t with
  | .null => some none
  | .string (some text) => (Instant.read? text).map some
  | _ => none

/-- Fill in a field that has no value yet. -/
def Draft.set? (d : Draft) (f : Field) (t : Tree) : Option Draft :=
  match f with
  | .accessToken =>
    if d.accessToken.isSome then none
    else (text? t).map fun v => { d with accessToken := some v }
  | .tokenType =>
    if d.tokenType.isSome then none
    else (text? t).map fun v => { d with tokenType := some v }
  | .refreshToken =>
    if d.refreshToken.isSome then none
    else (optionalText? t).map fun v => { d with refreshToken := some v }
  | .expiresAt =>
    if d.expiresAt.isSome then none
    else (optionalInstant? t).map fun v => { d with expiresAt := some v }

/-- Read one member of an object.  A key has to have a text; an unknown key
may have any value. -/
def Draft.member? (d : Draft) (m : Option String × Tree) : Option Draft :=
  match m.1 with
  | none => none
  | some key =>
    match Field.ofKey? key with
    | none => some d
    | some f => d.set? f m.2

/-- The credentials of a complete draft. -/
def Draft.finish? (d : Draft) : Option Credentials :=
  match d.accessToken, d.tokenType with
  | some accessToken, some tokenType =>
    some ⟨accessToken, tokenType, d.refreshToken.join, d.expiresAt.join⟩
  | _, _ => none

/-- The draft of an object's members. -/
def Draft.ofMembers? (members : List (Option String × Tree)) : Option Draft :=
  members.foldlM Draft.member? {}

/-- The draft of an array's items. -/
def Draft.ofItems? (items : List Tree) : Option Draft :=
  if Field.all.length < items.length then none
  else (Field.all.zip items).foldlM (fun d p => d.set? p.1 p.2) {}

end Record

/-- The credentials that a tree records. -/
def Credentials.ofTree? (t : Tree) : Option Credentials :=
  match t with
  | .object members => (Record.Draft.ofMembers? members).bind Record.Draft.finish?
  | .array items => (Record.Draft.ofItems? items).bind Record.Draft.finish?
  | _ => none

/-- The credentials that a text records. -/
def Credentials.readRecord? (gs : List Text.Glyph) : Option Credentials :=
  (Tree.read? gs).bind Credentials.ofTree?

end SessionKeeper
