import SessionKeeper.Http.Header
import SessionKeeper.Json.Value
import SessionKeeper.Text.Basic

/-! # Requests and responses

A request is what an application asks for, relative to the base address of a
service; its kind says whether the credentials of a session go with it.  A
response is what came back, whatever its status.

Core Lean 4 only; no Mathlib. -/

namespace SessionKeeper.Http

/-- What a request is for. -/
inductive Kind where
  /-- An application's own request. -/
  | regular
  /-- A sign-in. -/
  | signIn
  /-- The replacement of credentials. -/
  | refresh
  deriving DecidableEq, Repr

/-- A request. -/
structure Request where
  method : String
  path : String
  headers : Headers := {}
  body : Option Json.Value := none
  kind : Kind := .regular

/-- Why a request cannot be built. -/
inductive BuildError where
  | method
  | headerName
  /-- The value of the named header. -/
  | headerValue (name : String)
  deriving DecidableEq, Repr

/-- The wording of an error. -/
def BuildError.message : BuildError → String
  | .method => "Invalid HTTP method"
  | .headerName => "Invalid header name"
  | .headerValue name => "Invalid value for header " ++ name

namespace Request

/-- A request by any method. -/
def ofMethod (method path : String) : Except BuildError Request :=
  if isToken method then .ok { method, path } else .error .method

/-- A sign-in. -/
def signIn (path : String) : Request :=
  { method := "POST", path, kind := .signIn }

/-- The replacement of credentials, with an empty object for a body. -/
def refresh (path : String) : Request :=
  { method := "POST", path, kind := .refresh, body := some (.object []) }

/-- The request with a body. -/
def withBody (r : Request) (body : Json.Value) : Request :=
  { r with body := some body }

/-- The request with one value for a header. -/
def withHeader (r : Request) (name value : String) : Except BuildError Request :=
  match headerName? name with
  | none => .error .headerName
  | some name =>
    if isFieldValue value then .ok { r with headers := r.headers.set name value }
    else .error (.headerValue name)

/-- The request with one cookie. -/
def withCookie (r : Request) (name value : String) : Except BuildError Request :=
  r.withHeader cookie (name ++ "=" ++ value)

/-- The authorization that a request carries, if it can be read. -/
def authorization? (r : Request) : Option String :=
  (r.headers.get? authorization).filter isReadable

end Request

/-- A response. -/
structure Response where
  status : Nat
  headers : Headers := {}
  body : List UInt8 := []
  deriving DecidableEq

/-- Whether a number can be a status. -/
def isStatus (n : Nat) : Bool :=
  100 ≤ n && n ≤ 999

/-- A text up to a character, and what stands behind that character. -/
def splitAt? (sep : Char) (cs : List Char) : Option (List Char × List Char) :=
  match cs.dropWhile (· != sep) with
  | [] => none
  | _ :: rest => some (cs.takeWhile (· != sep), rest)

/-- The name and the value of the cookie that a header sets.  Its attributes
stand behind a semicolon. -/
def cookieOf? (header : String) : Option (List Char × List Char) :=
  splitAt? '=' (Text.trim (header.toList.takeWhile (· != ';')))

namespace Response

/-- Whether the request succeeded. -/
def isSuccess (r : Response) : Bool :=
  200 ≤ r.status && r.status < 300

/-- The body as text. -/
def text (r : Response) : String :=
  Text.lossy r.body

/-- The body as a JSON value. -/
def json? (r : Response) : Option Json.Value :=
  Json.Value.read? (Text.glyphs r.body)

/-- The value of the first cookie of a name that the response sets.  Headers
that cannot be read, and those that set no cookie, are passed over. -/
def cookie? (r : Response) (name : String) : Option String :=
  let cookies := ((r.headers.all setCookie).filter isReadable).filterMap cookieOf?
  (cookies.find? (·.1 == name.toList)).map fun c => String.ofList c.2

end Response

end SessionKeeper.Http
