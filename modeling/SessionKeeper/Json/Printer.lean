import SessionKeeper.Json.Value

/-! # Writing JSON

Values are written in two layouts: compact, with nothing between the tokens,
and indented by two spaces for each level.  A string escapes its quotes, its
backslashes and the control characters, and keeps every other character.

Core Lean 4 only; no Mathlib. -/

namespace SessionKeeper.Json

/-- A hexadecimal digit, in lower case. -/
def hexChar (n : Nat) : Char :=
  if n < 10 then Char.ofNat ('0'.toNat + n) else Char.ofNat ('a'.toNat + (n - 10))

/-- A character as it stands in a string. -/
def escapeChar (c : Char) : List Char :=
  if c = '"' then ['\\', '"']
  else if c = '\\' then ['\\', '\\']
  else if c = '\x08' then ['\\', 'b']
  else if c = '\x0c' then ['\\', 'f']
  else if c = '\n' then ['\\', 'n']
  else if c = '\r' then ['\\', 'r']
  else if c = '\t' then ['\\', 't']
  else if c.toNat < 0x20 then
    ['\\', 'u', '0', '0', hexChar (c.toNat / 16), hexChar (c.toNat % 16)]
  else [c]

/-- A text between quotes. -/
def quote (text : String) : List Char :=
  '"' :: (text.toList.flatMap escapeChar ++ ['"'])

/-- Texts one behind the other with a comma between any two. -/
def commaSeparated (parts : List (List Char)) : List Char :=
  (parts.intersperse [',']).flatten

/-- The text of a value that holds no other values. -/
def Value.atomText : Value → List Char
  | .null => "null".toList
  | .bool true => "true".toList
  | .bool false => "false".toList
  | .integer n => (toString n).toList
  | .float f => floatText f
  | .string text => quote text
  | .array _ => ['[', ']']
  | .object _ => ['\x7b', '\x7d']

mutual

/-- The compact text of a value. -/
def Value.compact : Value → List Char
  | .array items => '[' :: (commaSeparated (compactItems items) ++ [']'])
  | .object members => '\x7b' :: (commaSeparated (compactMembers members) ++ ['\x7d'])
  | v => v.atomText

/-- The compact texts of the items of an array. -/
def Value.compactItems : List Value → List (List Char)
  | [] => []
  | v :: vs => v.compact :: compactItems vs

/-- The compact texts of the members of an object. -/
def Value.compactMembers : List (String × Value) → List (List Char)
  | [] => []
  | (key, v) :: ms => (quote key ++ ':' :: v.compact) :: compactMembers ms

end

/-- A new line, indented for a level. -/
def newLine (level : Nat) : List Char :=
  '\n' :: List.replicate (2 * level) ' '

/-- The parts of a container, each on a line of its own, between its marks. -/
def indentedBlock (level : Nat) (first last : Char) (parts : List (List Char)) : List Char :=
  first :: (commaSeparated (parts.map (newLine (level + 1) ++ ·)) ++ newLine level ++ [last])

mutual

/-- The indented text of a value that stands at a level. -/
def Value.indentedAt (level : Nat) : Value → List Char
  | .array (v :: vs) => indentedBlock level '[' ']' (indentedItems (level + 1) (v :: vs))
  | .object (m :: ms) => indentedBlock level '\x7b' '\x7d' (indentedMembers (level + 1) (m :: ms))
  | v => v.atomText

/-- The indented texts of the items of an array. -/
def Value.indentedItems (level : Nat) : List Value → List (List Char)
  | [] => []
  | v :: vs => v.indentedAt level :: indentedItems level vs

/-- The indented texts of the members of an object. -/
def Value.indentedMembers (level : Nat) : List (String × Value) → List (List Char)
  | [] => []
  | (key, v) :: ms => (quote key ++ ':' :: ' ' :: v.indentedAt level) :: indentedMembers level ms

end

/-- A value on one line. -/
def Value.toCompact (v : Value) : String :=
  String.ofList v.compact

/-- A value on many lines. -/
def Value.toIndented (v : Value) : String :=
  String.ofList (v.indentedAt 0)

end SessionKeeper.Json
