import SessionKeeper.Http.Domain

/-! # Hosts

The host of an address is a domain, an IPv4 address or an IPv6 address.  The
reader gives each its one written form: domains in ASCII (`Domain`), IPv4
addresses as four decimal numbers whatever notation they came in, and IPv6
addresses with the longest run of zeros left out.

Core Lean 4 only; no Mathlib. -/

namespace SessionKeeper.Http

/-- Why a text is no address. -/
inductive AddressError where
  | noScheme
  | emptyHost
  | port
  | domain
  | domainCharacter
  | ipv4
  | ipv6
  deriving DecidableEq, Repr

/-- The wording of an error. -/
def AddressError.message : AddressError → String
  | .noScheme => "relative URL without a base"
  | .emptyHost => "empty host"
  | .port => "invalid port number"
  | .domain => "invalid international domain name"
  | .domainCharacter => "invalid domain character"
  | .ipv4 => "invalid IPv4 address"
  | .ipv6 => "invalid IPv6 address"

namespace Host

open Text (splitOn hexValue? number?)

/-- A text with every escape of a byte undone. -/
def unescape (cs : List Char) : List UInt8 :=
  match cs with
  | [] => []
  | '%' :: a :: b :: rest =>
    match hexValue? a, hexValue? b with
    | some a, some b => UInt8.ofNat (a * 16 + b) :: unescape rest
    | _, _ => UInt8.ofNat '%'.toNat :: unescape (a :: b :: rest)
  | c :: rest => Text.bytesOf (String.singleton c) ++ unescape rest

/-! ## IPv4 -/

/-- A number in an IPv4 address: decimal, or octal behind a zero, or
hexadecimal behind `0x`. -/
def ipv4Number? (cs : List Char) : Option Nat :=
  match cs with
  | [] => none
  | '0' :: 'x' :: digits => number? 16 digits
  | '0' :: 'X' :: digits => number? 16 digits
  | '0' :: d :: digits => number? 8 (d :: digits)
  | digits => number? 10 digits

/-- The parts of a domain, without an empty one at the end. -/
def labels (cs : List Char) : List (List Char) :=
  let parts := splitOn '.' cs
  if 1 < parts.length ∧ parts.getLast? = some [] then parts.dropLast else parts

/-- Whether a domain has to be an IPv4 address. -/
def endsInNumber (cs : List Char) : Bool :=
  match (labels cs).getLast? with
  | some last => (!last.isEmpty && last.all Char.isDigit) || (ipv4Number? last).isSome
  | none => false

/-- The four bytes of an IPv4 address.  Its last number fills the bytes that
the others leave. -/
def ipv4? (cs : List Char) : Option (List Nat) := do
  let numbers ← (labels cs).mapM ipv4Number?
  let last ← numbers.getLast?
  let front := numbers.dropLast
  if 3 < front.length ∨ front.any (255 < ·) ∨ Nat.pow 256 (4 - front.length) ≤ last then none
  let tail := (List.range (4 - front.length)).reverse.map fun k => last / Nat.pow 256 k % 256
  return front ++ tail

/-- The text of an IPv4 address. -/
def ipv4Text (bytes : List Nat) : List Char :=
  ['.'].intercalate (bytes.map (Nat.toDigits 10))

/-! ## IPv6 -/

/-- A group of an IPv6 address. -/
def group? (cs : List Char) : Option Nat :=
  if cs.isEmpty ∨ 4 < cs.length then none else number? 16 cs

/-- A decimal byte without zeros in front. -/
def byte? (cs : List Char) : Option Nat := do
  if cs.isEmpty ∨ 3 < cs.length ∨ (1 < cs.length ∧ cs.head? = some '0') then none
  let n ← number? 10 cs
  if n < 256 then some n else none

/-- The groups of a part of an IPv6 address.  The last may be an IPv4 address,
which stands for two. -/
def groups? : List (List Char) → Option (List Nat)
  | [] => some []
  | [last] =>
    if last.contains '.' then
      match (splitOn '.' last).mapM byte? with
      | some [a, b, c, d] => some [a * 256 + b, c * 256 + d]
      | _ => none
    else (group? last).map ([·])
  | cs :: rest => do
    let g ← group? cs
    let gs ← groups? rest
    return g :: gs

/-- The parts before and after a double colon, if there is one. -/
def splitGap? (parts : List (List Char)) :
    Option (List (List Char) × Option (List (List Char))) :=
  if parts.contains [] then
    let before := parts.takeWhile (· ≠ [])
    let after := (parts.dropWhile (· ≠ [])).drop 1
    let after? := if before.isEmpty then (if after.head? = some [] then some after.tail else none)
      else some after
    match after? with
    | none => none
    | some [] => none
    | some [[]] => some (before, some [])
    | some rest => if rest.contains [] then none else some (before, some rest)
  else some (parts, none)

/-- The eight groups of an IPv6 address.  A double colon stands for one zero
at least. -/
def ipv6? (cs : List Char) : Option (List Nat) := do
  let (front, back?) ← splitGap? (splitOn ':' cs)
  match back? with
  | none =>
    let gs ← groups? front
    if gs.length = 8 then some gs else none
  | some back =>
    if front.any (·.contains '.') then none
    let front ← groups? front
    let back ← groups? back
    if 7 < front.length + back.length then none
    return front ++ List.replicate (8 - front.length - back.length) 0 ++ back

/-- How many zeros a list of groups begins with. -/
def leadingZeros (gs : List Nat) : Nat :=
  (gs.takeWhile (· == 0)).length

/-- Where the first of the longest runs of zeros begins, and its length. -/
def longestZeros (gs : List Nat) : Nat × Nat :=
  (List.range gs.length).foldl (fun best k =>
    let run := leadingZeros (gs.drop k)
    if best.2 < run then (k, run) else best) (0, 0)

/-- The text of an IPv6 address, between brackets. -/
def ipv6Text (gs : List Nat) : List Char :=
  let texts (gs : List Nat) := [':'].intercalate (gs.map (Nat.toDigits 16))
  let (start, run) := longestZeros gs
  let inner := if 2 ≤ run then texts (gs.take start) ++ [':', ':'] ++ texts (gs.drop (start + run))
    else texts gs
  '[' :: (inner ++ [']'])

/-! ## Reading -/

/-- The characters that no host has where the scheme is not known. -/
def isForbiddenInHost (c : Char) : Bool :=
  c ∈ ['\x00', '\t', '\n', '\r', ' ', '#', '/', ':', '<', '>', '?', '@', '[', '\\', ']', '^', '|']

/-- The IPv6 address between brackets. -/
def readBracketed (cs : List Char) : Except AddressError (List Char) :=
  match cs.reverse with
  | ']' :: inner =>
    match ipv6? inner.reverse with
    | some gs => .ok (ipv6Text gs)
    | none => .error .ipv6
  | _ => .error .ipv6

/-- The written form of a host on the web. -/
def read (cs : List Char) : Except AddressError (List Char) :=
  match cs with
  | '[' :: rest => readBracketed rest
  | _ =>
    match Domain.ofBytes? (unescape cs) with
    | none => .error .domain
    | some domain =>
      if domain.isEmpty then .error .emptyHost
      else if endsInNumber domain then
        match ipv4? domain with
        | some bytes => .ok (ipv4Text bytes)
        | none => .error .ipv4
      else .ok domain

end Host

end SessionKeeper.Http
