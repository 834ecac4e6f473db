import SessionKeeper.Json.Token
import SessionKeeper.Decimal.Shortest

/-! # JSON numbers

A whole number that fits 64 bits keeps its value.  Every other number is a
double, found by one multiplication or division: its leading digits, as many
as fit 64 bits, and a power of ten.  That is not always the nearest double:
the product is rounded, and so are its two factors.

Core Lean 4 only; no Mathlib. -/

namespace SessionKeeper.Json

/-- The largest number of 64 bits. -/
def maxWord : Nat :=
  Nat.pow 2 64 - 1

/-- Append digits to a number while it fits 64 bits; the digits that are left
begin with the first that does not fit. -/
def absorb (n : Nat) : List Nat → Nat × List Nat
  | [] => (n, [])
  | d :: ds => if n * 10 + d ≤ maxWord then absorb (n * 10 + d) ds else (n, d :: ds)

/-- The double nearest to `10 ^ k`. -/
def powerOfTen (k : Nat) : Float :=
  Float.ofScientific 1 false k

/-- The double `f * 10 ^ e`, or `none` where it is too large. -/
def scaleByTen (f : Float) (e : Int) : Option Float :=
  if e.natAbs ≤ 308 then
    if 0 ≤ e then
      let g := f * powerOfTen e.natAbs
      if g.isInf then none else some g
    else some (f / powerOfTen e.natAbs)
  else if f == 0.0 then some f
  else if 0 ≤ e then none
  else scaleByTen (f / powerOfTen 308) (e + 308)
termination_by e.natAbs
decreasing_by omega

/-- The double that a number writes. -/
def Literal.toFloat? (l : Literal) : Option Float :=
  let (n, dropped) := absorb 0 l.whole
  let (n, unread) := absorb n l.fraction
  let e := l.exponent.getD 0 + dropped.length - (l.fraction.length - unread.length : Nat)
  (scaleByTen n.toUInt64.toFloat e).map fun f => if l.negative then -f else f

/-- The whole number that a literal keeps: it has neither point nor exponent,
fits 64 bits, and is not a zero with a minus sign. -/
def Literal.toInt? (l : Literal) : Option Int :=
  if l.fraction ≠ [] ∨ l.exponent.isSome then none
  else
    let n := numberOfDigits l.whole
    if l.negative then if 1 ≤ n ∧ n ≤ Nat.pow 2 63 then some (-n) else none
    else if n ≤ maxWord then some n else none

/-- The digits of an exponent, behind its sign, which is always written. -/
def exponentText (e : Int) : List Char :=
  (if e < 0 then '-' else '+') :: Nat.toDigits 10 e.natAbs

/-- The text of a decimal: positional from `0.00001` up to sixteen digits before
the point, and with an exponent elsewhere.  A positional text has a point. -/
def decimalText (d : Decimal.Scientific) : List Char :=
  if d.exponent < -5 ∨ 15 < d.exponent then
    match d.digits with
    | [] => []
    | [c] => c :: 'e' :: exponentText d.exponent
    | c :: cs => c :: '.' :: cs ++ 'e' :: exponentText d.exponent
  else if d.exponent < 0 then
    '0' :: '.' :: List.replicate (-d.exponent - 1).toNat '0' ++ d.digits
  else
    let point := d.exponent.toNat + 1
    let whole := d.digits.take point
    let rest := d.digits.drop point
    whole ++ List.replicate (point - whole.length) '0' ++
      '.' :: (if rest.isEmpty then ['0'] else rest)

/-- The text of a finite double. -/
def floatText (f : Float) : List Char :=
  let bits := f.toBits.toNat
  let magnitude := bits % Nat.pow 2 63
  let text := if magnitude = 0 then ['0', '.', '0'] else decimalText (.ofBits magnitude)
  if Nat.pow 2 63 ≤ bits then '-' :: text else text

end SessionKeeper.Json
