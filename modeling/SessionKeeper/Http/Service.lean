import SessionKeeper.Http.Exchange
import SessionKeeper.Text.Bytes

/-! # Services

A service is known by its base address; requests name paths below it.  A
request goes to the service if its path and the base make an address that
requests can be sent to.  If the address names an account, the request gives
it as its authorization, unless it has one.  How it then travels is up to a
`Dial`.

Core Lean 4 only; no Mathlib. -/

namespace SessionKeeper.Http

/-- A service, by its base address without slashes at the end. -/
structure Service where
  base : String
  deriving DecidableEq, Repr

/-- Why a service cannot be used. -/
inductive ServiceError where
  | invalidBase (base : String)
  deriving DecidableEq, Repr

/-- The wording of an error. -/
def ServiceError.message : ServiceError → String
  | .invalidBase base => "Invalid API base URL: " ++ base

/-- A text without the slashes at its end. -/
def withoutSlashes (text : String) : String :=
  String.ofList (text.toList.reverse.dropWhile (· == '/')).reverse

/-- A name and a password as an authorization. -/
def basicAuthorization (name : String) (password : Option String) : String :=
  "Basic " ++ String.ofList (Text.Base64.encode (Text.bytesOf (name ++ ":" ++ password.getD "")))

/-- A request with the authorization of the account that an address names. -/
def Request.provenBy (r : Request) (a : Address) : Request :=
  match a.proof? with
  | some (name, password) =>
    if r.headers.contains authorization then r
    else { r with headers := r.headers.set authorization (basicAuthorization name password) }
  | none => r

/-- What becomes of a request once its address is known. -/
abbrev Dial (m : Type → Type) := Address → Request → m (Except TransportFault Response)

namespace Service

/-- The service at a base address. -/
def new (base : String) : Except ServiceError Service :=
  match Address.read base with
  | .ok _ => .ok ⟨withoutSlashes base⟩
  | .error _ => .error (.invalidBase base)

/-- A path behind the base address. -/
def join (s : Service) (path : String) : String :=
  if path.toList.head? = some '/' then s.base ++ path else s.base ++ "/" ++ path

/-- The address of a path, with the account if one is named. -/
def address (s : Service) (path : String) : Except TransportFault Address :=
  match Address.read (s.join path) with
  | .error e => .error (.invalidRequest (s.join path ++ ": " ++ e.message))
  | .ok a =>
    if a.requested.isHttp then .ok a
    else .error (.invalidRequest ("builder error for url (" ++ a.requested.text ++ ")"))

/-- Send a request. -/
def send {m : Type → Type} [Monad m] (s : Service) (dial : Dial m) (r : Request) :
    m (Except TransportFault Response) :=
  match s.address r.path with
  | .error fault => return .error fault
  | .ok a => dial a.requested (r.provenBy a)

end Service

/-- The dial of a machine without a network. -/
def unreachable : Dial Id := fun a _ =>
  .error (.connect a.sendFailure)

end SessionKeeper.Http
