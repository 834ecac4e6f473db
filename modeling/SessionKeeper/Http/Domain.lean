import SessionKeeper.Http.Domain.Direction
import SessionKeeper.Http.Domain.Mapping
import SessionKeeper.Text.Joining
import SessionKeeper.Text.Normal
import SessionKeeper.Text.Punycode
import SessionKeeper.Text.Bytes

/-! # Domains

The name of a domain in ASCII.  A name may be given in any script: its
characters are replaced by what they stand for in names and composed, and each
label that then goes beyond ASCII is written in punycode behind `xn--`.  A
label that comes in that form is read and has to be one that the writer would
have produced.

Not every text is a label: a mark cannot begin one, joiners need the letters
that they join, and where a name has letters that are written from right to
left each of its labels keeps to one direction.

Core Lean 4 only; no Mathlib. -/

namespace SessionKeeper.Http.Domain

/-! ## Characters -/

/-- The characters that no domain has. -/
def isForbidden (c : Char) : Bool :=
  c.toNat ≤ 0x20 || c.toNat == 0x7F ||
    c ∈ ['%', '#', '/', ':', '<', '>', '?', '@', '[', '\\', ']', '^', '|']

/-- Whether a character is ASCII. -/
def isAscii (c : Char) : Bool :=
  c.toNat < 0x80

/-- What a given text stands for, if a name can be given by it. -/
def resolve? (cs : List Char) : Option (List Char) := do
  let forms ← cs.mapM form?
  let name := Text.compose forms.flatten
  if name.any isForbidden then none
  return name

/-! ## Joiners -/

/-- The joiner that keeps letters from joining. -/
def nonJoiner : Char := '\u200C'

/-- The joiner that makes letters join. -/
def joiner : Char := '\u200D'

/-- Whether the first character that is not transparent joins on the wanted
side. -/
def joinsFirst (wanted : Text.Joining) (cs : List Char) : Bool :=
  match (cs.dropWhile fun c => Text.joining? c == some .transparent).head? with
  | none => false
  | some c => Text.joining? c == some wanted || Text.joining? c == some .dual

/-- Whether joiners stand where they have a meaning.  `before` holds the
characters that have been passed, the last first.  Behind a virama both may
stand, and the other places are those of a non-joiner that keeps two letters
apart. -/
def joinersFit (before : List Char) : List Char → Bool
  | [] => true
  | c :: rest =>
    let fits :=
      if c = nonJoiner ∨ c = joiner then
        before.head?.any (fun b => Text.combiningClass b == Text.viramaClass) ||
          (c == nonJoiner && joinsFirst .left before && joinsFirst .right rest)
      else true
    fits && joinersFit (c :: before) rest

/-! ## Labels -/

/-- What a label in punycode begins with. -/
def encodedMark : List Char := "xn--".toList

/-- How long a label beyond ASCII can be. -/
def labelLimit : Nat := 1000

/-- How long the punycode of a label can be. -/
def encodedLimit : Nat := 2000

/-- Whether a text can be a label. -/
def isLabel (cs : List Char) : Bool :=
  !cs.head?.any Text.isMark && joinersFit [] cs && (cs.all isAscii || cs.length ≤ labelLimit)

/-- The label that stands in punycode. -/
def decode? (encoded : List Char) : Option (List Char) := do
  if ¬ encoded.all isAscii ∨ encoded.isEmpty ∨ encoded.getLast? = some '-' ∨
      encodedLimit < encoded.length then none
  let label ← Text.Punycode.decode? encoded
  if ¬ label.all isSettled ∨ Text.compose label ≠ label then none
  return label

/-- A label with every character as itself. -/
def reveal? (label : List Char) : Option (List Char) := do
  let revealed ←
    if encodedMark.isPrefixOf label then decode? (label.drop encodedMark.length) else some label
  if ¬ isLabel revealed then none
  return revealed

/-- A label in ASCII. -/
def conceal (label : List Char) : List Char :=
  if label.all isAscii then label else encodedMark ++ Text.Punycode.encode label

/-! ## Directions -/

/-- Whether a label has letters or numbers that are written from right to
left. -/
def goesLeft (label : List Char) : Bool :=
  label.any fun c => directionOf c == .rightToLeft || directionOf c == .arabicNumber

/-- Whether the characters of a label keep to the direction of its first,
given by their directions without the marks at the end. -/
def keepsDirection (directions : List Direction) : Bool :=
  match directions.head?, directions.getLast? with
  | some .leftToRight, some last =>
    (last == .leftToRight || last == .europeanNumber) &&
      directions.all fun d => d != .rightToLeft && d != .arabicNumber
  | some .rightToLeft, some last =>
    (last == .rightToLeft || last == .europeanNumber || last == .arabicNumber) &&
      directions.all (· != .leftToRight) &&
      !(directions.contains .europeanNumber && directions.contains .arabicNumber)
  | _, _ => false

/-- Whether a label can stand in a name with letters from right to left. -/
def isDirected (label : List Char) : Bool :=
  label.isEmpty ||
    keepsDirection ((label.map directionOf).reverse.dropWhile (· == .mark)).reverse

/-! ## Names -/

/-- The name in ASCII that a text gives. -/
def ofText? (cs : List Char) : Option (List Char) := do
  let name ← resolve? cs
  let labels := Text.splitOn '.' name
  let revealed ← labels.mapM reveal?
  if revealed.any goesLeft ∧ ¬ revealed.all isDirected then none
  return ['.'].intercalate (revealed.map conceal)

/-- The name in ASCII that bytes give. -/
def ofBytes? (bytes : List UInt8) : Option (List Char) :=
  (Text.strict? bytes).bind fun text => ofText? text.toList

end SessionKeeper.Http.Domain
