import SessionKeeper.Credential.Path
import SessionKeeper.Text.Basic

/-! # Names of databases

The name under which a database is opened is the path of its file, or a text
that begins with `file:` and gives more than that: behind an authority, which
can only be the local one, stands the path with escapes, then options behind a
question mark, and what follows a number sign is passed over.

A database without a path, or with the path `:memory:`, is one in memory.

Core Lean 4 only; no Mathlib. -/

namespace SessionKeeper.Database

/-- What may be done with the file of a database. -/
structure Access where
  /-- Whether the file is made if there is none. -/
  creates : Bool := true
  writes : Bool := true
  deriving DecidableEq, Repr

/-- What a name stands for. -/
inductive Locator where
  /-- A database in memory, which nobody else sees. -/
  | memory (writes : Bool)
  | file (path : List UInt8) (access : Access)
  deriving DecidableEq, Repr

/-! ## Escapes -/

/-- A byte as a character, which is the one it stands for if it is ASCII. -/
def charOf (b : UInt8) : Char :=
  Char.ofNat b.toNat

/-- The bytes of an ASCII text. -/
def ascii (text : String) : List UInt8 :=
  Text.bytesOf text

/-- Bytes with every escape undone, up to an escaped zero. -/
def unescape : List UInt8 → List UInt8
  | 37 :: a :: b :: rest =>
    match Text.hexValue? (charOf a), Text.hexValue? (charOf b) with
    | some a, some b => if a * 16 + b = 0 then [] else UInt8.ofNat (a * 16 + b) :: unescape rest
    | _, _ => 37 :: unescape (a :: b :: rest)
  | b :: rest => b :: unescape rest
  | [] => []

/-! ## Options -/

/-- The byte of a character. -/
def byte (c : Char) : UInt8 :=
  UInt8.ofNat c.toNat

/-- An option: its name and its value, which may be empty. -/
abbrev Choice := List UInt8 × List UInt8

/-- The options that a text writes; one without a name is none. -/
def choices (text : List UInt8) : List Choice :=
  (Text.splitOn (byte '&') text).filterMap fun part =>
    let (name, value?) := Text.splitAtMark (byte '=') part
    let name := unescape name
    if name.isEmpty then none else some (name, unescape (value?.getD []))

/-- The ways in which the options so far let the file be used. -/
structure Mode where
  writes : Bool := true
  creates : Bool := true
  inMemory : Bool := false
  deriving DecidableEq, Repr

/-- How much a mode permits; an option cannot ask for more than the one before
it, unless that asked for memory. -/
def Mode.rank (m : Mode) : Nat :=
  if m.inMemory then 4 else if m.creates then 3 else if m.writes then 2 else 1

/-- The mode of a name. -/
def mode? (value : List UInt8) : Option Mode :=
  if value = ascii "ro" then some ⟨false, false, false⟩
  else if value = ascii "rw" then some ⟨true, false, false⟩
  else if value = ascii "rwc" then some ⟨true, true, false⟩
  else if value = ascii "memory" then some ⟨true, true, true⟩
  else none

/-- The mode after an option that may set it. -/
def Mode.choose? (m : Mode) (choice : Choice) : Option Mode :=
  if choice.1 = ascii "mode" then
    match mode? choice.2 with
    | none => none
    | some wanted => if wanted.inMemory ∨ wanted.rank ≤ m.rank then some wanted else none
  else some m

/-- Whether a text means yes: a number other than zero, or a word for it. -/
def isYes (value : List UInt8) : Bool :=
  let text := value.map charOf
  let digits := text.takeWhile Char.isDigit
  if digits.isEmpty then
    text.map Char.toLower ∈ ["on".toList, "yes".toList, "true".toList]
  else
    let n := (Text.number? 10 digits).getD 0
    n < Nat.pow 2 31 && n % 256 != 0

/-- The ways to reach files that an engine knows by name. -/
def fileSystems : List String :=
  ["unix", "unix-none", "unix-dotfile", "unix-excl"]

/-- The way to reach files that are in memory in truth. -/
def memorySystem : String := "memdb"

/-- What a path and options stand for. -/
def Locator.of? (path : List UInt8) (options : List Choice) : Option Locator := do
  let mode ← options.foldlM Mode.choose? {}
  let caches := (options.filter (·.1 == ascii "cache")).map (·.2)
  if ¬ caches.all fun value => value == ascii "shared" || value == ascii "private" then none
  let systems := (options.filter (·.1 == ascii "vfs")).map (·.2)
  let inMemory := systems.getLast? == some (ascii memorySystem)
  if ¬ inMemory ∧ ¬ systems.getLast?.all fun name => fileSystems.any (ascii · == name) then none
  if mode.inMemory ∨ path = ascii ":memory:" ∨ path.isEmpty then return .memory mode.writes
  let isFrozen := (options.lookup (ascii "immutable")).any isYes
  let writes := mode.writes && !isFrozen
  return if inMemory then .memory writes else .file path ⟨mode.creates, writes⟩

/-! ## Reading -/

/-- What follows the authority in front of a text, unless it names another
machine. -/
def withoutAuthority? (text : List UInt8) : Option (List UInt8) :=
  match text with
  | 47 :: 47 :: rest =>
    let authority := rest.takeWhile (· != Path.slash)
    if authority.isEmpty ∨ authority = ascii "localhost" then
      some (rest.drop authority.length)
    else none
  | text => some text

/-- How names of databases that give more than a path begin. -/
def nameMark : List UInt8 := ascii "file:"

/-- What a name stands for, if it is the name of a database. -/
def Locator.ofName? (name : String) : Option Locator :=
  let bytes := Text.bytesOf name
  if bytes.contains 0 then none
  else if nameMark.isPrefixOf bytes then
    match withoutAuthority? (bytes.drop nameMark.length) with
    | none => none
    | some text =>
      let (path, options?) := Text.splitAtMark (byte '?') (text.takeWhile (· != byte '#'))
      Locator.of? (unescape path) (choices (options?.getD []))
  else Locator.of? bytes []

end SessionKeeper.Database
