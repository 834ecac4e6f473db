/-! # The shortest decimal that reads back

A binary floating-point number `m * 2 ^ q` stands for every real that rounds
to it.  Among the decimals in that interval this module finds the one with
the fewest digits, and of those the nearest.

The search is exact.  For 1, 2, … 17 digits it looks at the two neighbours of
the number on the grid of decimals with so many digits; the first grid with a
neighbour in the interval wins, since a grid with any point in the interval
has one of the two neighbours in it.  All comparisons are of natural numbers.

Core Lean 4 only; no Mathlib. -/

namespace SessionKeeper.Decimal

/-- The decimal `d.ddd * 10 ^ exponent`, by its digits. -/
structure Scientific where
  digits : List Char
  exponent : Int
  deriving DecidableEq, Repr

/-- The reals that round to one binary number.  All three numbers are
numerators over `unit`. -/
structure Interval where
  low : Nat
  value : Nat
  high : Nat
  unit : Nat
  /-- Whether the two ends round to the number themselves. -/
  closed : Bool

/-- The interval of `m * 2 ^ q`.  The gap below is half as wide where the
number below has a smaller exponent. -/
def Interval.ofBinary (m : Nat) (q : Int) (narrowBelow : Bool) : Interval :=
  let up := Nat.pow 2 (q - 2).toNat
  { low := (4 * m - if narrowBelow then 1 else 2) * up
    value := 4 * m * up
    high := (4 * m + 2) * up
    unit := Nat.pow 2 (2 - q).toNat
    closed := m % 2 == 0 }

/-- Whether `d * 10 ^ k` lies in the interval. -/
def Interval.holds (i : Interval) (k : Int) (d : Nat) : Bool :=
  let point := d * Nat.pow 10 k.toNat * i.unit
  let scale := Nat.pow 10 (-k).toNat
  if i.closed then i.low * scale ≤ point && point ≤ i.high * scale
  else i.low * scale < point && point < i.high * scale

/-- How many digits a positive number has. -/
def length (n : Nat) : Nat :=
  (Nat.toDigits 10 n).length

/-- The exponent of the leading decimal digit of the interval's number. -/
def Interval.leading (i : Interval) : Int :=
  if i.unit ≤ i.value then Int.ofNat (length (i.value / i.unit)) - 1
  else -Int.ofNat (length ((i.unit - 1) / i.value))

/-- The point of the grid `10 ^ k` that is nearest to the number, of those
that lie in the interval; a tie goes to the even one. -/
def Interval.nearest? (i : Interval) (k : Int) : Option Nat :=
  let num := i.value * Nat.pow 10 (-k).toNat
  let den := i.unit * Nat.pow 10 k.toNat
  let below := num / den
  let rest := 2 * (num % den)
  let upper := den < rest || (rest == den && below % 2 == 1)
  match i.holds k below, i.holds k (below + 1) with
  | true, true => some (if upper then below + 1 else below)
  | true, false => some below
  | false, true => some (below + 1)
  | false, false => none

/-- The decimal `d * 10 ^ k`, without the zeros at its end. -/
def Scientific.ofGrid (d : Nat) (k : Int) : Scientific :=
  let ds := Nat.toDigits 10 d
  { digits := (ds.reverse.dropWhile (· == '0')).reverse
    exponent := ds.length - 1 + k }

/-- The shortest decimal in an interval. -/
def Interval.shortest (i : Interval) : Scientific :=
  let grid (n : Nat) : Int := i.leading - n
  let found := (List.range 17).findSome? fun n => (i.nearest? (grid n)).map (·, grid n)
  match found with
  | some (d, k) => .ofGrid d k
  | none => .ofGrid i.value 0

/-- The shortest decimal of a double, given by the 63 bits below its sign.
The double is finite and not zero. -/
def Scientific.ofBits (bits : Nat) : Scientific :=
  let fraction : Nat := bits % Nat.pow 2 52
  let biased : Nat := bits / Nat.pow 2 52
  if biased = 0 then (Interval.ofBinary fraction (-1074) false).shortest
  else
    (Interval.ofBinary (Nat.pow 2 52 + fraction) ((biased : Int) - 1075)
      (fraction == 0 && 1 < biased)).shortest

end SessionKeeper.Decimal
