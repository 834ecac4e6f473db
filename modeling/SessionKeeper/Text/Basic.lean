/-! # Texts

What the readers of this library share.

* Blanks are the characters with the Unicode property White_Space, and texts are trimmed by
  it.  Dates, cookies and the environment file all skip blanks in this sense; JSON has a set
  of its own (`Json.isBlank`).
* A text, or any other list, is cut at separators, at all of them or at the first.
* Digits of a base up to sixteen write numbers, in either case.
* A text is put into capitals, for the letters whose capitals are ASCII.  Every other letter
  stays, and so marks the text as not being ASCII.

Core Lean 4 only; no Mathlib. -/

namespace SessionKeeper.Text

/-! ## Blanks -/

/-- Whether a character has the Unicode property White_Space. -/
def isBlank (c : Char) : Bool :=
  let n := c.toNat
  (0x09 ≤ n && n ≤ 0x0D) || n == 0x20 || n == 0x85 || n == 0xA0 || n == 0x1680 ||
    (0x2000 ≤ n && n ≤ 0x200A) || n == 0x2028 || n == 0x2029 || n == 0x202F ||
    n == 0x205F || n == 0x3000

/-- A text without its leading blanks. -/
def skipBlanks (cs : List Char) : List Char :=
  cs.dropWhile isBlank

/-- A text without the blanks at either end. -/
def trim (cs : List Char) : List Char :=
  (skipBlanks (skipBlanks cs).reverse).reverse

/-! ## Parts -/

section parts

variable {α : Type} [DecidableEq α]

/-- The parts of a list between separators; a list without any is one part. -/
def splitOn (sep : α) (xs : List α) : List (List α) :=
  xs.foldr (fun x parts =>
    if x = sep then [] :: parts
    else match parts with
      | [] => [[x]]
      | part :: rest => (x :: part) :: rest) [[]]

/-- A list up to a mark, and what follows the mark. -/
def splitAtMark (mark : α) (xs : List α) : List α × Option (List α) :=
  match xs.dropWhile (· != mark) with
  | [] => (xs, none)
  | _ :: rest => (xs.takeWhile (· != mark), some rest)

end parts

/-- The words of a text, which blanks and line ends keep apart. -/
def words (text : String) : List (List Char) :=
  (splitOn ' ' (text.toList.map fun c => if c = '\n' then ' ' else c)).filter (· ≠ [])

/-! ## Numerals -/

/-- The value of a hexadecimal digit of either case. -/
def hexValue? (c : Char) : Option Nat :=
  if '0' ≤ c ∧ c ≤ '9' then some (c.toNat - '0'.toNat)
  else if 'a' ≤ c ∧ c ≤ 'f' then some (c.toNat - 'a'.toNat + 10)
  else if 'A' ≤ c ∧ c ≤ 'F' then some (c.toNat - 'A'.toNat + 10)
  else none

/-- The number that digits of a base write; no digits write zero. -/
def number? (base : Nat) (cs : List Char) : Option Nat :=
  cs.foldlM
    (fun n c => (hexValue? c).bind fun d => if d < base then some (n * base + d) else none) 0

/-! ## Capital letters -/

/-- The capitals of a letter, where they are ASCII. -/
def upperChar (c : Char) : List Char :=
  match c with
  | 'ß' => ['S', 'S']
  | 'ı' => ['I']
  | 'ſ' => ['S']
  | 'ﬀ' => ['F', 'F']
  | 'ﬁ' => ['F', 'I']
  | 'ﬂ' => ['F', 'L']
  | 'ﬃ' => ['F', 'F', 'I']
  | 'ﬄ' => ['F', 'F', 'L']
  | 'ﬅ' => ['S', 'T']
  | 'ﬆ' => ['S', 'T']
  | c => [c.toUpper]

/-- A text in capitals, where they are ASCII. -/
def upper (text : String) : String :=
  String.ofList (text.toList.flatMap upperChar)

end SessionKeeper.Text
