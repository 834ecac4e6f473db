import SessionKeeper.Http.Service

/-! # Cookies

What responses ask to be remembered, and what later requests carry of it.  A
cookie goes back to the host that has set it, or to the hosts below a domain
that it names; to paths below its own; and, if it is a secure one, only over
`https`.  A newer cookie takes the place of one with the same name, host and
path, and one whose age may not exceed zero removes it.

A request that brings a cookie of its own gets none from here.

Core Lean 4 only; no Mathlib. -/

namespace SessionKeeper.Http

/-- A cookie. -/
structure Cookie where
  name : List Char
  value : List Char
  host : List Char
  /-- Whether it also goes to the hosts below its own. -/
  isShared : Bool
  path : List Char
  isSecure : Bool
  deriving DecidableEq, Repr

namespace Cookie

/-- Whether a host is a domain or lies below it. -/
def isWithin (domain host : List Char) : Bool :=
  host == domain || ('.' :: domain).isSuffixOf host

/-- Whether a path is another or lies below it. -/
def isBelow (upper path : List Char) : Bool :=
  upper.isPrefixOf path &&
    (upper.length == path.length || upper.getLast? == some '/' || path[upper.length]? == some '/')

/-- Whether a cookie goes with a request to an address. -/
def concerns (c : Cookie) (a : Address) : Bool :=
  a.host.any (fun host => if c.isShared then isWithin c.host host else host == c.host) &&
    isBelow c.path a.path && (!c.isSecure || a.scheme == "https".toList)

/-- The path of a cookie that names none: the directory of the address. -/
def standardPath (a : Address) : List Char :=
  match (a.path.reverse.dropWhile (· != '/')).drop 1 with
  | [] => ['/']
  | above => above.reverse

/-- The attributes behind a cookie, their names in small letters. -/
def attributes (header : String) : List (List Char × List Char) :=
  ((Text.splitOn ';' header.toList).drop 1).map fun part =>
    match splitAt? '=' part with
    | some (name, value) => ((Text.trim name).map Char.toLower, Text.trim value)
    | none => ((Text.trim part).map Char.toLower, [])

/-- Whether attributes say that a cookie is to be removed. -/
def isOver (attributes : List (List Char × List Char)) : Bool :=
  match attributes.lookup "max-age".toList with
  | none => false
  | some ('-' :: age) => age.all Char.isDigit
  | some age => !age.isEmpty && age.all (· == '0')

/-- The cookie that a header of a response from an address sets, and whether
it is to be removed instead. -/
def ofHeader? (a : Address) (header : String) : Option (Cookie × Bool) := do
  let (name, value) ← cookieOf? header
  let host ← a.host
  let given := attributes header
  let domain := ((given.lookup "domain".toList).getD []).dropWhile (· == '.')
  let domain := domain.map Char.toLower
  if ¬ domain.isEmpty ∧ ¬ isWithin domain host then none
  let path := (given.lookup "path".toList).filter fun path => path.head? == some '/'
  let cookie : Cookie :=
    { name := Text.trim name
      value := Text.trim value
      host := if domain.isEmpty then host else domain
      isShared := !domain.isEmpty
      path := path.getD (standardPath a)
      isSecure := (given.lookup "secure".toList).isSome }
  return (cookie, isOver given)

/-- Whether two cookies cannot be kept side by side. -/
def isReplacedBy (c d : Cookie) : Bool :=
  c.name == d.name && c.host == d.host && c.path == d.path

end Cookie

/-- The cookies that are kept, oldest first. -/
structure Jar where
  cookies : List Cookie := []
  deriving DecidableEq, Repr

namespace Jar

/-- Keep or remove the cookie of one header. -/
def learnHeader (a : Address) (jar : Jar) (header : String) : Jar :=
  match Cookie.ofHeader? a header with
  | none => jar
  | some (cookie, isOver) =>
    let others := jar.cookies.filter fun c => !c.isReplacedBy cookie
    ⟨if isOver then others else others ++ [cookie]⟩

/-- Keep what a response from an address asks for. -/
def learn (jar : Jar) (a : Address) (r : Response) : Jar :=
  ((r.headers.all setCookie).filter isReadable).foldl (learnHeader a) jar

/-- The cookies that go with a request to an address, as one text. -/
def textFor (jar : Jar) (a : Address) : String :=
  "; ".intercalate ((jar.cookies.filter (·.concerns a)).map fun c =>
    String.ofList (c.name ++ '=' :: c.value))

/-- A request to an address with the cookies that go with it. -/
def attach (jar : Jar) (a : Address) (r : Request) : Request :=
  let text := jar.textFor a
  if text.isEmpty ∨ r.headers.contains cookie then r
  else { r with headers := r.headers.set cookie text }

end Jar

/-- A dial that keeps cookies. -/
def Dial.withCookies {m : Type → Type} [Monad m] (dial : Dial m) : Dial (StateT Jar m) :=
  fun a r => do
    let jar ← get
    let answer ← dial a (jar.attach a r)
    if let .ok response := answer then set (jar.learn a response)
    return answer

end SessionKeeper.Http
