import SessionKeeper.Text.Basic
import SessionKeeper.Text.Bytes

/-! # Paths

A path is a text that leads to a file or a directory by names between slashes.
Empty names and single dots lead nowhere, and two dots lead upwards.  What it
leads to depends on the directories that are there; the parts of the path, and
the path of the directory above, depend on the text alone.

Core Lean 4 only; no Mathlib. -/

namespace SessionKeeper.Path

/-- A name on the way to a file or a directory. -/
abbrev Name := List UInt8

/-- Where a file or a directory is: the names that lead to it from the root. -/
abbrev Location := List Name

/-- The byte between names. -/
def slash : UInt8 := 47

/-- The name that leads nowhere. -/
def here : Name := [46]

/-- The name that leads upwards. -/
def upwards : Name := [46, 46]

/-- How many bytes a name can have. -/
def nameLimit : Nat := 255

/-- How many bytes a path can have. -/
def pathLimit : Nat := 4095

/-- The names in a path that lead somewhere. -/
def names (path : List UInt8) : List Name :=
  (Text.splitOn slash path).filter fun name => !name.isEmpty && name != here

/-- Whether a path begins at the root. -/
def isAbsolute (path : List UInt8) : Bool :=
  path.head? == some slash

/-- A reversed path without the slashes and the single dots at its end. -/
def dropEnd : List Char → List Char
  | '/' :: rest => dropEnd rest
  | '.' :: '/' :: rest => dropEnd rest
  | path => path

/-- A path without the slashes and the single dots at its end.  The root keeps
its slash, and a dot that is all of a path remains. -/
def trimEnd (path : List Char) : List Char :=
  let trimmed := (dropEnd path.reverse).reverse
  if trimmed.isEmpty ∧ path.head? = some '/' then ['/'] else trimmed

/-- The path of the directory above, if it is not the root or nothing that a
path leads to.  It is empty for a path of one name. -/
def above? (path : String) : Option String :=
  let trimmed := trimEnd path.toList
  if trimmed.isEmpty ∨ trimmed = ['/'] then none
  else some (String.ofList (trimEnd (trimmed.reverse.dropWhile (· != '/')).reverse))

/-- The absolute path of a location. -/
def bytes (location : Location) : List UInt8 :=
  location.flatMap (slash :: ·)

/-- How long a location is as a path. -/
def length (location : Location) : Nat :=
  (bytes location).length

/-- The absolute path of a location, if its names are texts. -/
def text? (location : Location) : Option String :=
  Text.strict? (bytes location)

end SessionKeeper.Path
