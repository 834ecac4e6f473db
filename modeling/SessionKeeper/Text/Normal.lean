import SessionKeeper.Text.Composition
import SessionKeeper.Text.Mark

/-! # Composed text

The composed normal form of a text (NFC): every character is taken apart, the
marks behind a base are put into the order of their classes, and then all is
put together again as far as it goes.  Texts that look the same in any font
have one such form.

Characters that no composed text has are left as they are; they have to be
replaced beforehand.

Core Lean 4 only; no Mathlib. -/

namespace SessionKeeper.Text

/-- How often the first half of a pair can be a pair itself; no character of
Unicode comes near it. -/
def compositionDepth : Nat := 8

/-- The parts of a character, taken apart so many times. -/
def partsWithin : Nat → Char → List Char
  | 0, c => [c]
  | depth + 1, c =>
    match splitPair? c with
    | some (a, b) => partsWithin depth a ++ [b]
    | none => [c]

/-- The parts of a character. -/
def partsOf (c : Char) : List Char :=
  partsWithin compositionDepth c

/-- Put a character before ordered ones: behind the marks of lower classes
that it is a mark itself to pass. -/
def putMark (c : Char) : List Char → List Char
  | [] => [c]
  | d :: rest =>
    if 0 < combiningClass d ∧ combiningClass d < combiningClass c then d :: putMark c rest
    else c :: d :: rest

/-- A text with its marks in the order of their classes.  Marks of one class
keep their order. -/
def orderMarks (cs : List Char) : List Char :=
  cs.foldr putMark []

/-- Put together what follows a base.  `marks` are those that stayed behind the
base, the last first; the last hides the base from marks of its class and from
characters that are none. -/
def joinBehind (base : Char) (marks : List Char) : List Char → List Char
  | [] => base :: marks.reverse
  | c :: rest =>
    let isHidden := marks.head?.any fun m => combiningClass c ≤ combiningClass m
    match if isHidden then none else joinPair? base c with
    | some joined => joinBehind joined marks rest
    | none =>
      if combiningClass c = 0 then base :: marks.reverse ++ joinBehind c [] rest
      else joinBehind base (c :: marks) rest

/-- The composed form of a text. -/
def compose (cs : List Char) : List Char :=
  match orderMarks (cs.flatMap partsOf) with
  | [] => []
  | c :: rest => joinBehind c [] rest

end SessionKeeper.Text
