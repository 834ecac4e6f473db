/-! # Headers

The headers of a message are named values.  A name is a token of limited
length, in lower case; a value is any text without control characters other
than tabs.  A name may come more than once.

Core Lean 4 only; no Mathlib. -/

namespace SessionKeeper.Http

/-- The characters of a token. -/
def isTokenChar (c : Char) : Bool :=
  c.isAlphanum ||
    c ∈ ['!', '#', '$', '%', '&', '\'', '*', '+', '-', '.', '^', '_', '\x60', '|', '~']

/-- Whether a text is a token: a method or the name of a header. -/
def isToken (text : String) : Bool :=
  !text.isEmpty && text.toList.all isTokenChar

/-- Whether a text can be the value of a header. -/
def isFieldValue (text : String) : Bool :=
  text.toList.all fun c => c == '\t' || (0x20 ≤ c.toNat && c.toNat != 0x7F)

/-- Whether a value is readable: visible ASCII, spaces and tabs. -/
def isReadable (text : String) : Bool :=
  text.toList.all fun c => c == '\t' || (0x20 ≤ c.toNat && c.toNat < 0x7F)

/-- How long the name of a header can be. -/
def headerNameLimit : Nat := 65535

/-- The name under which a header is known, if the text can be a name. -/
def headerName? (text : String) : Option String :=
  if isToken text ∧ text.length ≤ headerNameLimit then
    some (String.ofList (text.toList.map Char.toLower)) else none

/-- The headers of a message. -/
structure Headers where
  fields : List (String × String) := []
  deriving DecidableEq, Repr

namespace Headers

/-- The values of a name, in order. -/
def all (hs : Headers) (name : String) : List String :=
  (hs.fields.filter (·.1 == name)).map (·.2)

/-- The first value of a name. -/
def get? (hs : Headers) (name : String) : Option String :=
  hs.fields.lookup name

/-- Whether a name has a value. -/
def contains (hs : Headers) (name : String) : Bool :=
  (hs.get? name).isSome

/-- Give a name one value, in place of all it has. -/
def set (hs : Headers) (name value : String) : Headers :=
  ⟨hs.fields.filter (·.1 != name) ++ [(name, value)]⟩

/-- Give a name one more value. -/
def add (hs : Headers) (name value : String) : Headers :=
  ⟨hs.fields ++ [(name, value)]⟩

/-- The headers in the order of their names; the values of a name keep theirs. -/
def sorted (hs : Headers) : List (String × String) :=
  hs.fields.mergeSort fun a b => a.1 ≤ b.1

end Headers

/-! ## Names -/

/-- Who sends a request. -/
def authorization : String := "authorization"

/-- What the sender of a request was told to remember. -/
def cookie : String := "cookie"

/-- What the receiver of a response is told to remember. -/
def setCookie : String := "set-cookie"

/-- What a body is. -/
def contentType : String := "content-type"

end SessionKeeper.Http
