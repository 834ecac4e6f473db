import SessionKeeper.Http.Address
import SessionKeeper.Http.Failure
import SessionKeeper.Json.Printer

/-! # Messages on the wire

A request as the bytes that go over a connection of its own, and a response
as the bytes that come back until the connection is closed.

The body of a response is as long as its headers say: a number of bytes, or
chunks up to an empty one.  Without either it reaches to the end.  A response
that ends earlier than that has no reading.

Core Lean 4 only; no Mathlib. -/

namespace SessionKeeper.Http

/-! ## Requests -/

/-- What a request to an address failed at, in the words of the transport. -/
def Address.sendFailure (a : Address) : String :=
  "error sending request for url (" ++ a.text ++ ")"

/-- The host of an address with its port, as a request names it. -/
def Address.authority (a : Address) : String :=
  String.ofList (a.host.getD [] ++ match a.port with
    | none => []
    | some port => ':' :: Nat.toDigits 10 port)

/-- The path of an address with its query, as a request names it. -/
def Address.target (a : Address) : String :=
  String.ofList (a.path ++ match a.query with
    | none => []
    | some query => '?' :: query)

/-- The bytes of a request's body. -/
def Request.bodyBytes (r : Request) : List UInt8 :=
  match r.body with
  | none => []
  | some body => Text.bytesOf body.toCompact

/-- The headers that a request is sent with.  Those of its own count for more
than the usual ones. -/
def Request.sentHeaders (a : Address) (r : Request) : List (String × String) :=
  let ofBody := match r.body with
    | none => []
    | some _ => [(contentType, "application/json"),
        ("content-length", toString r.bodyBytes.length)]
  let usual := ("host", a.authority) :: ("accept", "*/*") :: ("connection", "close") :: ofBody
  usual.filter (fun h => !r.headers.contains h.1) ++ r.headers.fields

/-- A request as it is sent. -/
def Request.bytes (a : Address) (r : Request) : List UInt8 :=
  let first := r.method ++ " " ++ a.target ++ " HTTP/1.1\r\n"
  let lines := (r.sentHeaders a).map fun h => h.1 ++ ": " ++ h.2 ++ "\r\n"
  Text.bytesOf (first ++ String.join lines ++ "\r\n") ++ r.bodyBytes

/-! ## Responses -/

/-- The line at the beginning of some bytes, without its end, and what follows
it. -/
def line? (bytes : List UInt8) : Option (List UInt8 × List UInt8) :=
  match bytes.dropWhile (· != 10) with
  | [] => none
  | _ :: rest => some (((bytes.takeWhile (· != 10)).reverse.dropWhile (· == 13)).reverse, rest)

theorem line?_length_lt {bytes : List UInt8} {found : List UInt8 × List UInt8}
    (h : line? bytes = some found) : found.2.length < bytes.length := by
  unfold line? at h
  split at h
  · cases h
  · next rest heq =>
    cases h
    have := (List.dropWhile_sublist (l := bytes) (· != 10)).length_le
    rw [heq, List.length_cons] at this
    exact this

/-- The lines up to an empty one, and what follows it. -/
def head? (bytes : List UInt8) : Option (List String × List UInt8) :=
  match _h : line? bytes with
  | none => none
  | some ([], rest) => some ([], rest)
  | some (line, rest) => (head? rest).map fun (lines, rest) => (Text.lossy line :: lines, rest)
termination_by bytes.length
decreasing_by exact line?_length_lt _h

/-- The status that the first line of a response gives. -/
def statusOf? (line : String) : Option Nat :=
  match Text.splitOn ' ' line.toList with
  | version :: status :: _ =>
    if "HTTP/1.".toList.isPrefixOf version then
      (Text.number? 10 status).filter isStatus
    else none
  | _ => none

/-- The headers that some lines give.  A line that gives none is passed over. -/
def headersOf (lines : List String) : Headers :=
  lines.foldl (fun hs line =>
    match splitAt? ':' line.toList with
    | none => hs
    | some (name, value) =>
      match headerName? (String.ofList name) with
      | some name => hs.add name (String.ofList (Text.trim value))
      | none => hs) {}

/-- The content of chunks up to an empty one. -/
def chunks? (bytes : List UInt8) : Option (List UInt8) :=
  match _h : line? bytes with
  | none => none
  | some (size, rest) =>
    match Text.number? 16 (Text.trim ((Text.lossy size).toList.takeWhile (· != ';'))) with
    | none => none
    | some 0 => some []
    | some n =>
      if rest.length < n + 2 then none
      else (chunks? (rest.drop (n + 2))).map (rest.take n ++ ·)
termination_by bytes.length
decreasing_by
  have := line?_length_lt _h
  simp only [List.length_drop] at this ⊢
  omega

/-- The body that follows the head of a response. -/
def body? (status : Nat) (hs : Headers) (rest : List UInt8) : Option (List UInt8) :=
  if status = 204 ∨ status = 304 then some []
  else if (hs.get? "transfer-encoding").isSome then chunks? rest
  else
    match hs.get? "content-length" with
    | none => some rest
    | some length =>
      match Text.number? 10 length.toList with
      | none => none
      | some n => if rest.length < n then none else some (rest.take n)

/-- The response to a request that was sent to an address, of all that came
back. -/
def Response.ofBytes (a : Address) (bytes : List UInt8) : Except TransportFault Response :=
  match head? bytes with
  | some (first :: lines, rest) =>
    match statusOf? first with
    | none => .error (.invalidRequest a.sendFailure)
    | some status =>
      let headers := headersOf lines
      match body? status headers rest with
      | none => .error (.other "error decoding response body")
      | some body => .ok { status, headers, body }
  | _ => .error (.invalidRequest a.sendFailure)

end SessionKeeper.Http
