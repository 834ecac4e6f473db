import SessionKeeper.Json.Tree
import SessionKeeper.Json.Number

/-! # JSON values

What a JSON text means.  An object has each key once, in the order of the
characters; where a text repeats a key the last member counts.

A tree has no value if one of its strings has no text, if a number is too
large for a double, or if containers are nested deeper than `maxDepth`.

Core Lean 4 only; no Mathlib. -/

namespace SessionKeeper.Json

/-- A JSON value. -/
inductive Value where
  | null
  | bool (b : Bool)
  | integer (n : Int)
  | float (f : Float)
  | string (text : String)
  | array (items : List Value)
  | object (members : List (String × Value))
  deriving Inhabited

/-- How deep the containers of a value may be nested. -/
def maxDepth : Nat := 127

/-- Put a member into an ordered list, in place of an older one. -/
def setMember (key : String) (v : Value) : List (String × Value) → List (String × Value)
  | [] => [(key, v)]
  | (k, w) :: rest =>
    if key < k then (key, v) :: (k, w) :: rest
    else if key = k then (key, v) :: rest
    else (k, w) :: setMember key v rest

/-- The object with the given members, of which a later one replaces an
earlier one. -/
def Value.ofMembers (members : List (String × Value)) : Value :=
  .object (members.foldl (fun ms m => setMember m.1 m.2 ms) [])

/-- The value of a number. -/
def Value.ofLiteral? (l : Literal) : Option Value :=
  match l.toInt? with
  | some n => some (.integer n)
  | none => l.toFloat?.map .float

/-- The value of a tree whose containers are nested at most `depth` deep. -/
def Value.ofTree? (depth : Nat) (t : Tree) : Option Value :=
  match t with
  | .null => some .null
  | .bool b => some (.bool b)
  | .number l => Value.ofLiteral? l
  | .string text => text.map .string
  | .array items =>
    match depth with
    | 0 => none
    | depth + 1 => (items.mapM (Value.ofTree? depth)).map .array
  | .object members =>
    match depth with
    | 0 => none
    | depth + 1 =>
      let member (m : Option String × Tree) : Option (String × Value) := do
        let key ← m.1
        let v ← Value.ofTree? depth m.2
        return (key, v)
      (members.mapM member).map Value.ofMembers

/-- The value of a whole text. -/
def Value.read? (gs : List Text.Glyph) : Option Value :=
  (Tree.read? gs).bind (Value.ofTree? maxDepth)

/-- The value of a member of an object. -/
def Value.get? (v : Value) (key : String) : Option Value :=
  match v with
  | .object members => members.lookup key
  | _ => none

end SessionKeeper.Json
