import SessionKeeper.Http.Host

/-! # Addresses

An address on the web, read from a text and written in its one normal form:
scheme and host in small letters, no port where it is the usual one, a path
without dots, and escapes for the characters that cannot stand where they are.

Schemes of the web (`http` and its kin) always have a host, and take a
backslash for a slash.  An address of any other scheme has a host only behind
two slashes, and without any slash its path is a text of no structure.  Files
have an address of their own kind, in which the letter of a drive stands where
else a host or a segment would.

Core Lean 4 only; no Mathlib. -/

namespace SessionKeeper.Http

/-- Who asks for what is at an address, both with escapes; an empty password is
none. -/
structure Account where
  name : List Char
  password : List Char
  deriving DecidableEq, Repr

/-- An address. -/
structure Address where
  scheme : List Char
  account : Option Account
  host : Option (List Char)
  port : Option Nat
  path : List Char
  query : Option (List Char)
  fragment : Option (List Char)
  deriving DecidableEq, Repr

/-- An account as it stands in an address. -/
def Account.text (u : Account) : List Char :=
  u.name ++ (if u.password.isEmpty then [] else ':' :: u.password) ++ ['@']

namespace Address

/-- The address as text. -/
def text (a : Address) : String :=
  let account := match a.account with
    | none => []
    | some account => account.text
  let authority := match a.host with
    | none => if a.path.take 2 = ['/', '/'] then ['/', '.'] else []
    | some host => '/' :: '/' :: account ++ host ++ (match a.port with
      | none => []
      | some port => ':' :: Nat.toDigits 10 port)
  let query := match a.query with
    | none => []
    | some query => '?' :: query
  let fragment := match a.fragment with
    | none => []
    | some fragment => '#' :: fragment
  String.ofList (a.scheme ++ ':' :: authority ++ a.path ++ query ++ fragment)

/-! ## Escapes -/

/-- The escape of a byte. -/
def escapeByte (b : UInt8) : List Char :=
  let digit (n : Nat) : Char :=
    if n < 10 then Char.ofNat ('0'.toNat + n) else Char.ofNat ('A'.toNat + (n - 10))
  ['%', digit (b.toNat / 16), digit (b.toNat % 16)]

/-- A text with escapes for all characters beyond ASCII, for the control
characters, and for those listed. -/
def escape (listed : List Char) (cs : List Char) : List Char :=
  cs.flatMap fun c =>
    if c.toNat < 0x20 ∨ 0x7F ≤ c.toNat ∨ c ∈ listed then
      (Text.bytesOf (String.singleton c)).flatMap escapeByte
    else [c]

/-- What is escaped in a fragment. -/
def inFragment : List Char := [' ', '"', '<', '>', '\x60']

/-- What is escaped in a path. -/
def inPath : List Char := inFragment ++ ['#', '?', '\x7b', '\x7d']

/-- What is escaped in an account. -/
def inAccount : List Char := inPath ++ ['/', ':', ';', '=', '@', '[', '\\', ']', '^', '|']

/-- What is escaped in a query. -/
def inQuery : List Char := [' ', '"', '#', '<', '>']

/-! ## Schemes -/

/-- The schemes of the web, with their usual ports. -/
def webPorts : List (List Char × Nat) :=
  [("http".toList, 80), ("https".toList, 443), ("ws".toList, 80), ("wss".toList, 443),
    ("ftp".toList, 21)]

/-- Whether a scheme is one of the web. -/
def isWebScheme (scheme : List Char) : Bool :=
  (webPorts.lookup scheme).isSome

/-- The scheme in front of a text, in small letters, and what follows it. -/
def scheme? (cs : List Char) : Option (List Char × List Char) :=
  let name := cs.takeWhile fun c => c.isAlphanum || c == '+' || c == '-' || c == '.'
  match name, cs.drop name.length with
  | first :: _, ':' :: rest =>
    if first.isAlpha then some (name.map Char.toLower, rest) else none
  | _, _ => none

/-! ## Authorities -/

/-- What stands before the last at sign of an authority, if there is one, and
what follows it, with the path. -/
def splitUser (cs : List Char) : Option (List Char) × List Char :=
  match ((cs.takeWhile (· != '/')).reverse.dropWhile (· != '@')) with
  | [] => (none, cs)
  | _ :: user => (some user.reverse, cs.drop (user.length + 1))

/-- The account that a text before an at sign names: all up to the first colon
is the name. -/
def accountOf? (user : List Char) : Option Account :=
  let (name, password?) := Text.splitAtMark ':' user
  let password := password?.getD []
  if name.isEmpty ∧ password.isEmpty then none
  else some ⟨escape inAccount name, escape inAccount password⟩

/-- How far the host of an authority reaches: up to the path, or to a colon that
is not between brackets. -/
def hostLength (inBrackets : Bool) : List Char → Nat
  | [] => 0
  | c :: rest =>
    if c = '/' ∨ (c = ':' ∧ inBrackets = false) then 0
    else 1 + hostLength (if c = '[' then true else if c = ']' then false else inBrackets) rest

/-- A port behind its colon, if one is there, and what follows it.  The usual
one is left out, as is an empty one. -/
def readPort (usual : Option Nat) (cs : List Char) :
    Except AddressError (Option Nat × List Char) :=
  match cs with
  | ':' :: cs =>
    let digits := cs.takeWhile Char.isDigit
    let rest := cs.drop digits.length
    match rest.head?.all (fun c => c == '/' || c == '\\'), Text.number? 10 digits with
    | true, some n =>
      if 65535 < n then .error .port
      else .ok (if digits.isEmpty ∨ usual = some n then none else some n, rest)
    | _, _ => .error .port
  | cs => .ok (none, cs)

/-- The host of an address of the web. -/
def readWebHost (cs : List Char) : Except AddressError (List Char) :=
  if cs.isEmpty then .error .emptyHost else Host.read cs

/-- The host of an address of another scheme. -/
def readOtherHost (cs : List Char) : Except AddressError (List Char) :=
  match cs with
  | '[' :: rest => Host.readBracketed rest
  | _ => if cs.any Host.isForbiddenInHost then .error .domainCharacter else .ok (escape [] cs)

/-- The host of a file.  The local one is not named. -/
def readFileHost (cs : List Char) : Except AddressError (List Char) :=
  if cs.isEmpty then .ok []
  else (Host.read cs).map fun host => if host = "localhost".toList then [] else host

/-! ## Paths -/

/-- Whether a segment stands for the directory it is in. -/
def isSingleDot (s : List Char) : Bool :=
  String.ofList (s.map Char.toLower) ∈ [".", "%2e"]

/-- Whether a segment stands for the directory above. -/
def isDoubleDot (s : List Char) : Bool :=
  String.ofList (s.map Char.toLower) ∈ ["..", ".%2e", "%2e.", "%2e%2e"]

/-- Whether a segment is the letter of a drive. -/
def isDrive (s : List Char) : Bool :=
  match s with
  | [letter, mark] => letter.isAlpha && (mark == ':' || mark == '|')
  | _ => false

/-- Whether a segment is the letter of a drive as far as its first backslash. -/
def beginsWithDrive (s : List Char) : Bool :=
  isDrive s || (isDrive (s.take 2) && s[2]? == some '\\')

/-- Known segments, newest first, without the last.  There is no way up from a
drive. -/
def goUp (known : List (List Char)) : List (List Char) :=
  if known.head?.any beginsWithDrive then known else known.tail

/-- The segments of a path without dots, behind those already known, newest
first. -/
def resolve (known : List (List Char)) : List (List Char) → List (List Char)
  | [] => known.reverse
  | [last] =>
    if isDoubleDot last then ([] :: goUp known).reverse
    else if isSingleDot last then ([] :: known).reverse
    else (last :: known).reverse
  | s :: rest =>
    if isDoubleDot s then resolve (goUp known) rest
    else if isSingleDot s then resolve known rest
    else resolve (s :: known) rest

/-- The segments that a text writes, with escapes. -/
def segmentsOf (cs : List Char) : List (List Char) :=
  (Text.splitOn '/' cs).map (escape inPath)

/-- Segments as a path. -/
def joinPath (segments : List (List Char)) : List Char :=
  segments.flatMap ('/' :: ·)

/-- A path, given by what follows its first slash. -/
def pathOf (cs : List Char) : List Char :=
  joinPath (resolve [] (segmentsOf cs))

/-- A slash, or a backslash in its place. -/
def isSlash (c : Char) : Bool :=
  c == '/' || c == '\\'

/-- A text with slashes for its backslashes. -/
def straighten (cs : List Char) : List Char :=
  cs.map fun c => if c = '\\' then '/' else c

/-! ## Paths of files -/

/-- The letter of a drive at the beginning of a path, with its colon. -/
def settleDrive (s : List Char) : List Char :=
  s.take 1 ++ [':']

/-- The segments of the path of a file without dots, and whether it begins with
a drive. -/
def resolveFile (known : List (List Char)) (onDrive : Bool) :
    List (List Char) → List (List Char) × Bool
  | [] => (known.reverse, onDrive)
  | s :: rest =>
    if isDoubleDot s then
      resolveFile (if rest.isEmpty then [] :: goUp known else goUp known) onDrive rest
    else if isSingleDot s then
      resolveFile (if rest.isEmpty then [] :: known else known) onDrive rest
    else if known.isEmpty && isDrive s then resolveFile (settleDrive s :: known) true rest
    else resolveFile (s :: known) onDrive rest

/-- A path without the empty segments that it begins with. -/
def withoutEmpty (segments : List (List Char)) : List (List Char) :=
  match segments.dropWhile List.isEmpty with
  | [] => [[]]
  | segments => segments

/-- The address of a file, given by its host and the segments of its path.  A
drive has no host. -/
def onFile (a : Address) (host : List Char) (segments : List (List Char)) : Address :=
  let (segments, onDrive) := resolveFile [] false segments
  { a with host := some (if onDrive then [] else host), path := joinPath (withoutEmpty segments) }

/-- An address of a file.  What stands in place of its host may be a drive. -/
def readFile (a : Address) (cs : List Char) : Except AddressError Address := do
  match straighten cs with
  | '/' :: '/' :: rest =>
    let place := rest.takeWhile (· != '/')
    if isDrive place then return a.onFile [] (segmentsOf rest)
    let host ← readFileHost place
    let path := rest.dropWhile (· != '/')
    return a.onFile host (segmentsOf (if host.isEmpty then path else path.drop 1))
  | '/' :: rest => return a.onFile [] (segmentsOf rest)
  | rest => return a.onFile [] (segmentsOf rest)

/-! ## Reading -/

/-- An authority and the path behind it, of what follows the two slashes.
Neither a user nor a port can stand without a host. -/
def readBehindSlashes (a : Address) (readHost : List Char → Except AddressError (List Char))
    (cs : List Char) : Except AddressError Address := do
  let (user, rest) := splitUser cs
  let endsText := rest.isEmpty && a.query.isNone && a.fragment.isNone
  if user = some [] ∧ (rest.isEmpty ∨ rest.head? = some '/') ∧ endsText = false then
    .error .emptyHost
  let account := user.bind accountOf?
  let length := hostLength false rest
  let host ← readHost (rest.take length)
  let behind := rest.drop length
  if host.isEmpty ∧ (account.isSome ∨ behind.head? = some ':') then .error .emptyHost
  let (port, path) ← readPort (webPorts.lookup a.scheme) behind
  let path := match path with
    | [] => if isWebScheme a.scheme then ['/'] else []
    | '/' :: path => pathOf path
    | path => pathOf path
  return { a with account, host := some host, port, path }

/-- What stands between the scheme and the query. -/
def readHierarchy (a : Address) (cs : List Char) : Except AddressError Address :=
  if a.scheme = "file".toList then readFile a cs
  else if isWebScheme a.scheme then
    readBehindSlashes a readWebHost (straighten (cs.dropWhile isSlash))
  else
    match cs with
    | '/' :: '/' :: rest => readBehindSlashes a readOtherHost rest
    | '/' :: rest => .ok { a with path := pathOf rest }
    | rest => .ok { a with path := escape [] rest }

/-- A text without blanks and control characters at its ends, and without
tabs and line ends anywhere. -/
def clean (cs : List Char) : List Char :=
  let isOuter (c : Char) : Bool := c.toNat ≤ 0x20
  let trimmed := ((cs.dropWhile isOuter).reverse.dropWhile isOuter).reverse
  trimmed.filter fun c => c != '\t' && c != '\n' && c != '\r'

/-- The address that a text stands for. -/
def read (text : String) : Except AddressError Address := do
  match scheme? (clean text.toList) with
  | none => .error .noScheme
  | some (scheme, rest) =>
    let (rest, fragment) := Text.splitAtMark '#' rest
    let (rest, query) := Text.splitAtMark '?' rest
    let isWeb := isWebScheme scheme || scheme == "file".toList
    let query := query.map (escape (if isWeb then '\x27' :: inQuery else inQuery))
    let start : Address :=
      { scheme, account := none, host := none, port := none, path := [], query
        fragment := fragment.map (escape inFragment) }
    readHierarchy start rest

/-! ## Requests -/

/-- The bytes that a text with escapes stands for, if they are a text. -/
def plain? (cs : List Char) : Option String :=
  Text.strict? (Host.unescape cs)

/-- The name and the password that a request gives to prove who asks, if the
address names an account.  A name that is no text proves nothing. -/
def proof? (a : Address) : Option (String × Option String) := do
  let account ← a.account
  let name ← plain? account.name
  let password := if account.password.isEmpty then none else plain? account.password
  if name.isEmpty ∧ password.isNone then none
  return (name, password)

/-- The address that a request goes to: it does not name the account that the
request gives elsewhere. -/
def requested (a : Address) : Address :=
  if a.proof?.isSome then { a with account := none } else a

/-- The characters that a host may have, but not the host of a request. -/
def notInRequests : List Char := ['"', '\x60', '\x7b', '\x7d']

/-- How long the address of a request can be. -/
def requestLimit : Nat := 65534

/-- Whether requests can be sent to an address. -/
def isHttp (a : Address) : Bool :=
  (a.scheme == "http".toList || a.scheme == "https".toList) &&
    !a.host.any (·.any notInRequests.contains) && a.text.utf8ByteSize ≤ requestLimit

end Address

end SessionKeeper.Http
