/-! # Bytes and texts

Bytes received from elsewhere are read as a list of *glyphs* by UTF-8.  A glyph is a
character, or `none` for a stretch of bytes that begins like a character and
does not go on as one.  Each such stretch is as long as it can be while it is
still the beginning of some character, so a damaged text has one reading.

Two views are taken of the glyphs.  The lossy view writes U+FFFD for each
damaged stretch; the strict view exists only where nothing is damaged.

Base 64 writes any bytes as letters, digits and two marks of ASCII: four characters for
three bytes, filled up with equals signs at the end.

Core Lean 4 only; no Mathlib. -/

namespace SessionKeeper.Text

/-! ## UTF-8 that may be damaged -/

/-- A character, or a damaged stretch of bytes. -/
abbrev Glyph := Option Char

/-- A character whose first bytes have been read: its value so far, how many
bytes it still needs, and the range of the next one. -/
structure Unfinished where
  value : Nat
  owed : Nat
  low : Nat
  high : Nat

/-- What a byte says when it stands at the beginning of a character. -/
def Unfinished.ofLead (b : Nat) : Option Unfinished :=
  if 0xC2 ≤ b ∧ b ≤ 0xDF then some ⟨b - 0xC0, 1, 0x80, 0xBF⟩
  else if b = 0xE0 then some ⟨0, 2, 0xA0, 0xBF⟩
  else if b = 0xED then some ⟨0xD, 2, 0x80, 0x9F⟩
  else if 0xE1 ≤ b ∧ b ≤ 0xEF then some ⟨b - 0xE0, 2, 0x80, 0xBF⟩
  else if b = 0xF0 then some ⟨0, 3, 0x90, 0xBF⟩
  else if 0xF1 ≤ b ∧ b ≤ 0xF3 then some ⟨b - 0xF0, 3, 0x80, 0xBF⟩
  else if b = 0xF4 then some ⟨4, 3, 0x80, 0x8F⟩
  else none

/-- Glyphs read so far, newest first, and the character being read. -/
structure Decoding where
  glyphs : List Glyph := []
  unfinished : Option Unfinished := none

/-- Read a byte that stands at the beginning of a character. -/
def Decoding.begin (d : Decoding) (b : Nat) : Decoding :=
  if b < 0x80 then ⟨some (Char.ofNat b) :: d.glyphs, none⟩
  else match Unfinished.ofLead b with
    | some u => ⟨d.glyphs, some u⟩
    | none => ⟨none :: d.glyphs, none⟩

/-- Read one byte.  A byte that cannot continue the character being read
ends a damaged stretch and begins anew. -/
def Decoding.step (d : Decoding) (byte : UInt8) : Decoding :=
  let b := byte.toNat
  match d.unfinished with
  | none => d.begin b
  | some u =>
    if u.low ≤ b ∧ b ≤ u.high then
      let value := u.value * 64 + (b - 0x80)
      if u.owed ≤ 1 then ⟨some (Char.ofNat value) :: d.glyphs, none⟩
      else ⟨d.glyphs, some ⟨value, u.owed - 1, 0x80, 0xBF⟩⟩
    else Decoding.begin ⟨none :: d.glyphs, none⟩ b

/-- End the text; a character that is still unfinished is damaged. -/
def Decoding.finish (d : Decoding) : List Glyph :=
  match d.unfinished with
  | none => d.glyphs.reverse
  | some _ => (none :: d.glyphs).reverse

/-- The glyphs of a sequence of bytes. -/
def glyphs (bytes : List UInt8) : List Glyph :=
  (bytes.foldl Decoding.step {}).finish

/-- The glyphs of a text that is known to be sound. -/
def glyphsOf (text : String) : List Glyph :=
  text.toList.map some

/-- A text that stands for the bytes even where they are damaged. -/
def lossy (bytes : List UInt8) : String :=
  String.ofList ((glyphs bytes).map fun g => g.getD '\uFFFD')

/-- The text of the bytes, if none of them is damaged. -/
def strict? (bytes : List UInt8) : Option String :=
  let gs := glyphs bytes
  if gs.all Option.isSome then some (String.ofList (gs.filterMap id)) else none

/-- The bytes of a text. -/
def bytesOf (text : String) : List UInt8 :=
  text.toUTF8.toList

/-! ## Base 64 -/

namespace Base64

/-- A digit of base 64. -/
def digit (n : Nat) : Char :=
  if n < 26 then Char.ofNat ('A'.toNat + n)
  else if n < 52 then Char.ofNat ('a'.toNat + (n - 26))
  else if n < 62 then Char.ofNat ('0'.toNat + (n - 52))
  else if n = 62 then '+'
  else '/'

/-- Four digits of a number. -/
def fourDigits (n : Nat) : List Char :=
  [digit (n / 262144 % 64), digit (n / 4096 % 64), digit (n / 64 % 64), digit (n % 64)]

/-- Bytes in base 64. -/
def encode : List UInt8 → List Char
  | [] => []
  | [a] => (fourDigits (a.toNat * 65536)).take 2 ++ ['=', '=']
  | [a, b] => (fourDigits (a.toNat * 65536 + b.toNat * 256)).take 3 ++ ['=']
  | a :: b :: c :: rest =>
    fourDigits (a.toNat * 65536 + b.toNat * 256 + c.toNat) ++ encode rest

end Base64

end SessionKeeper.Text
