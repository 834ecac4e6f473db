import SessionKeeper.Text.Basic

/-! # Tables of code points

A table gives values to ranges of code points, and finds the range of a
character by halving.

Tables are written down as words.  `41-5A` is a range and `AA` a range of one
code point, in hexadecimal digits.  In a table of images a word goes on with
what its range is mapped to: `41-5A>61` maps a range to another of the same
length, `100-12E/2>101` does so for every other code point of it, and
`BC>31+2044+34,3B8` gives successive code points an image each, of one or more
code points.

Core Lean 4 only; no Mathlib. -/

namespace SessionKeeper.Text

/-- A range of code points, both ends included, with the value that it has. -/
structure Row (α : Type) where
  first : Nat
  last : Nat
  value : α

/-- Rows in ascending order, of which no two overlap. -/
structure Table (α : Type) where
  rows : Array (Row α)

namespace Table

variable {α : Type}

/-! ## Looking up -/

/-- How many rows begin at a code point or before it, if that is so of all
below `lo` and of none from `hi` on. -/
def place (rows : Array (Row α)) (n lo hi : Nat) : Nat :=
  if lo < hi then
    let mid := (lo + hi) / 2
    if rows[mid]?.any (·.first ≤ n) then place rows n (mid + 1) hi else place rows n lo mid
  else lo
termination_by hi - lo

/-- The row that a number falls into. -/
def row? (t : Table α) (n : Nat) : Option (Row α) :=
  match place t.rows n 0 t.rows.size with
  | 0 => none
  | k + 1 => t.rows[k]?.filter (n ≤ ·.last)

/-- The value of a character. -/
def find? (t : Table α) (c : Char) : Option α :=
  (t.row? c.toNat).map (·.value)

/-- Whether a character has a value. -/
def contains (t : Table α) (c : Char) : Bool :=
  (t.row? c.toNat).isSome

/-! ## Reading tables -/

/-- A table of rows that do not overlap, in any order. -/
def ofRows (rows : List (Row α)) : Table α :=
  ⟨(rows.mergeSort fun a b => a.first ≤ b.first).toArray⟩

/-- The range that a word writes. -/
def range? (word : List Char) : Option (Nat × Nat) :=
  match splitAtMark '-' word with
  | (only, none) => (number? 16 only).map fun n => (n, n)
  | (first, some last) => do return (← number? 16 first, ← number? 16 last)

/-- A table in which all ranges of a text have one value, for some values and
texts. -/
def ofClasses (classes : List (α × String)) : Table α :=
  ofRows (classes.flatMap fun (value, text) =>
    (words text).filterMap fun word =>
      (range? word).map fun (first, last) => ⟨first, last, value⟩)

/-- The code points of a text, as a table without values. -/
def ofRanges (text : String) : Table Unit :=
  ofClasses [((), text)]

end Table

/-! ## Images -/

/-- What the code points of a range are mapped to. -/
inductive Images where
  /-- Every code point at a multiple of a distance from the first, to the code
  point that lies as far from another start. -/
  | shifted (stride start : Nat)
  /-- One code point after the other, to a text each. -/
  | listed (images : Array (List Char))

/-- The image of the code point at a distance from the first of its range. -/
def Images.at? (images : Images) (distance : Nat) : Option (List Char) :=
  match images with
  | .shifted stride start =>
    if distance % stride = 0 then some [Char.ofNat (start + distance)] else none
  | .listed images => images[distance]?

namespace Table

/-- The image of a character, if it has one. -/
def image? (t : Table Images) (c : Char) : Option (List Char) :=
  (t.row? c.toNat).bind fun row => row.value.at? (c.toNat - row.first)

/-- The text that numbers between plus signs write. -/
def imageOf? (word : List Char) : Option (List Char) :=
  (splitOn '+' word).mapM fun digits => (number? 16 digits).map Char.ofNat

/-- The row of images that a word writes. -/
def imageRow? (word : List Char) : Option (Row Images) := do
  let (source, images?) := splitAtMark '>' word
  let images ← images?
  let (range, stride?) := splitAtMark '/' source
  let (first, last) ← range? range
  if first = last then
    let images ← (splitOn ',' images).mapM imageOf?
    return ⟨first, first + images.length - 1, .listed images.toArray⟩
  else
    let stride ← number? 16 (stride?.getD ['1'])
    return ⟨first, last, .shifted stride (← number? 16 images)⟩

/-- The table of images that a text writes. -/
def ofImages (text : String) : Table Images :=
  ofRows ((words text).filterMap imageRow?)

/-- All characters with an image, and their images. -/
def images (t : Table Images) : List (Char × List Char) :=
  t.rows.toList.flatMap fun row =>
    (List.range (row.last + 1 - row.first)).filterMap fun distance =>
      (row.value.at? distance).map fun image => (Char.ofNat (row.first + distance), image)

end Table

end SessionKeeper.Text
