/-! # Punycode

A text as letters, digits and hyphens of ASCII.  The ASCII characters come
first, as they are.  Behind a hyphen follow the others in the order of their
code points, each as the distance from the one before: how many positions and
code points an orderly walk passes on the way to it.  Distances are numbers
of base 36 whose digits end themselves, by thresholds that follow the
distances seen so far.

`encode` writes this form and `decode?` reads it.

Core Lean 4 only; no Mathlib. -/

namespace SessionKeeper.Text.Punycode

/-- A digit of base 36. -/
def digit (n : Nat) : Char :=
  if n < 26 then Char.ofNat ('a'.toNat + n) else Char.ofNat ('0'.toNat + (n - 26))

/-- The threshold of the digit at a position. -/
def threshold (bias position : Nat) : Nat :=
  max 1 (min 26 (position - bias))

theorem threshold_pos (bias position : Nat) : 0 < threshold bias position := by
  unfold threshold
  omega

/-- The digits of a distance. -/
def distanceDigits (bias position n : Nat) : List Char :=
  let t := threshold bias position
  if n < t then [digit n]
  else digit (t + (n - t) % (36 - t)) :: distanceDigits bias (position + 36) ((n - t) / (36 - t))
termination_by n
decreasing_by
  have := threshold_pos bias position
  have := Nat.div_le_self (n - threshold bias position) (36 - threshold bias position)
  omega

/-- Scale a distance down until it is small; how often that was done. -/
def scaleDown (delta rounds : Nat) : Nat × Nat :=
  if 455 < delta then scaleDown (delta / 35) (rounds + 1) else (delta, rounds)
termination_by delta
decreasing_by omega

/-- The bias after a distance, with `handled` characters in place. -/
def adapt (delta handled : Nat) (isFirst : Bool) : Nat :=
  let delta := if isFirst then delta / 700 else delta / 2
  let (delta, rounds) := scaleDown (delta + delta / handled) 0
  36 * rounds + 36 * delta / (delta + 38)

/-- An encoder between two characters of the text. -/
structure Encoder where
  output : List Char
  delta : Nat
  bias : Nat
  handled : Nat

/-- Pass one character on the walk that looks for code point `n`. -/
def Encoder.pass (n plain : Nat) (e : Encoder) (c : Char) : Encoder :=
  if c.toNat < n then { e with delta := e.delta + 1 }
  else if c.toNat = n then
    { output := e.output ++ distanceDigits e.bias 36 e.delta
      delta := 0
      bias := adapt e.delta (e.handled + 1) (e.handled == plain)
      handled := e.handled + 1 }
  else e

/-- Encode all characters of code point `n`, coming from code point `before`. -/
def Encoder.walk (cs : List Char) (plain : Nat) (s : Encoder × Nat) (n : Nat) : Encoder × Nat :=
  let (e, before) := s
  let e := { e with delta := e.delta + (n - before) * (e.handled + 1) }
  let e := cs.foldl (Encoder.pass n plain) e
  ({ e with delta := e.delta + 1 }, n + 1)

/-- The code points beyond ASCII in a text, in order and each once. -/
def codePoints (cs : List Char) : List Nat :=
  (((cs.map Char.toNat).filter (0x80 ≤ ·)).mergeSort).eraseDups

/-- A text in punycode. -/
def encode (cs : List Char) : List Char :=
  let plain := cs.filter fun c => c.toNat < 0x80
  let start : Encoder :=
    { output := if plain.isEmpty then [] else plain ++ ['-']
      delta := 0
      bias := 72
      handled := plain.length }
  ((codePoints cs).foldl (Encoder.walk cs plain.length) (start, 0x80)).1.output

/-! ## Decoding -/

/-- The value of a digit of base 36, in either case. -/
def digitValue? (c : Char) : Option Nat :=
  if 'a' ≤ c ∧ c ≤ 'z' then some (c.toNat - 'a'.toNat)
  else if 'A' ≤ c ∧ c ≤ 'Z' then some (c.toNat - 'A'.toNat)
  else if '0' ≤ c ∧ c ≤ '9' then some (c.toNat - '0'.toNat + 26)
  else none

/-- Where numbers end: distances are those of 32 bits. -/
def distanceEnd : Nat :=
  Nat.pow 2 32

/-- Walk on from a point by the distance that stands in front of a text; the
point that is reached, and what follows. -/
def walkFrom? (bias position weight point : Nat) : List Char → Option (Nat × List Char)
  | [] => none
  | c :: rest =>
    match digitValue? c with
    | none => none
    | some d =>
      let point := point + d * weight
      let t := threshold bias position
      if distanceEnd ≤ point then none
      else if d < t then some (point, rest)
      else if distanceEnd ≤ weight * (36 - t) then none
      else walkFrom? bias (position + 36) (weight * (36 - t)) point rest

theorem walkFrom?_length_lt {bias position weight point : Nat} {cs : List Char}
    {found : Nat × List Char} (h : walkFrom? bias position weight point cs = some found) :
    found.2.length < cs.length := by
  induction cs generalizing position weight point with
  | nil => cases h
  | cons c rest ih =>
    unfold walkFrom? at h
    split at h
    · cases h
    · dsimp only at h
      split at h
      · cases h
      · split at h
        · cases h
          exact Nat.lt_succ_self _
        · split at h
          · cases h
          · exact Nat.lt_succ_of_lt (ih h)

/-- Put the characters that the rest of a text gives into their places among
those that are already there. -/
def insertAll? (there : List Char) (codePoint bias point : Nat) (cs : List Char) :
    Option (List Char) :=
  if cs.isEmpty then some there
  else
    match _h : walkFrom? bias 36 1 point cs with
    | none => none
    | some (reached, rest) =>
      let count := there.length + 1
      let codePoint := codePoint + reached / count
      if codePoint < 0xD800 ∨ (0xDFFF < codePoint ∧ codePoint < 0x110000) then
        insertAll? (there.insertIdx (reached % count) (Char.ofNat codePoint)) codePoint
          (adapt (reached - point) count (point == 0)) (reached % count + 1) rest
      else none
termination_by cs.length
decreasing_by exact walkFrom?_length_lt _h

/-- The text that a text in punycode stands for.  ASCII characters stand in
front of the last hyphen, unless that is the first character. -/
def decode? (cs : List Char) : Option (List Char) :=
  let behind := (cs.reverse.takeWhile (· != '-')).reverse
  let plain := cs.take (cs.length - behind.length - 1)
  insertAll? plain 0x80 72 0 (if plain.isEmpty then cs else behind)

end SessionKeeper.Text.Punycode
