import SessionKeeper.Time.Instant
import SessionKeeper.Text.Basic

/-! # Time stamps

Instants are written as `2026-01-02T03:04:05.678Z`: the date, the time of day,
as many fraction digits as the instant needs in steps of three, and the zone.
A year outside 0 to 9999 has a sign, and a leap second is second 60.

The reader is more liberal.  Numbers may have fewer digits and blanks around
them, the date and the time may be separated by a space, the fraction may have
any number of digits, and the zone may be `Z`, `UTC` or an offset.  What it
reads is an instant all the same: the date must exist, the time of day too,
and the instant must be one that the calendar holds.

Core Lean 4 only; no Mathlib. -/

namespace SessionKeeper.Time

/-! ## Writing -/

/-- A number with zeros in front, up to a width. -/
def padded (width n : Nat) : List Char :=
  let ds := Nat.toDigits 10 n
  List.replicate (width - ds.length) '0' ++ ds

/-- A year: four digits, and a sign where four digits do not reach. -/
def yearText (y : Int) : List Char :=
  if 0 ≤ y ∧ y ≤ 9999 then padded 4 y.natAbs
  else (if y < 0 then '-' else '+') :: padded 4 y.natAbs

/-- The fraction of a second: nothing, or three, six or nine digits. -/
def fractionText (nanos : Nat) : List Char :=
  if nanos = 0 then []
  else if nanos % 1000000 = 0 then '.' :: padded 3 (nanos / 1000000)
  else if nanos % 1000 = 0 then '.' :: padded 6 (nanos / 1000)
  else '.' :: padded 9 nanos

/-- An instant as text, followed by the name of its zone. -/
def Instant.write (i : Instant) (zone : List Char) : List Char :=
  let date := Date.ofDays (i.seconds / 86400)
  let second := (i.seconds % 86400).toNat
  let isLeap := nanosPerSecond ≤ i.nanos
  yearText date.year ++ '-' :: padded 2 date.month ++ '-' :: padded 2 date.day ++
    'T' :: padded 2 (second / 3600) ++ ':' :: padded 2 (second / 60 % 60) ++
    ':' :: padded 2 (second % 60 + if isLeap then 1 else 0) ++
    fractionText (i.nanos % nanosPerSecond) ++ zone

/-- An instant as it stands in a record. -/
def Instant.stamp (i : Instant) : String :=
  String.ofList (i.write ['Z'])

/-! ## Reading -/

/-- A reader takes what it needs from the front of a text. -/
abbrev Scan := StateT (List Char) Option

/-- Skip any blanks. -/
def Scan.blanks : Scan Unit :=
  modify Text.skipBlanks

/-- Take one character of a class. -/
def Scan.char (p : Char → Bool) : Scan Char := fun cs =>
  match cs with
  | c :: rest => if p c then some (c, rest) else none
  | [] => none

/-- The value of a list of decimal digits. -/
def digitsValue (ds : List Char) : Nat :=
  ds.foldl (fun n c => n * 10 + (c.toNat - '0'.toNat)) 0

/-- Take the digits in front, at least one and at most `limit` of them. -/
def Scan.digits (limit : Nat) : Scan (List Char) := fun cs =>
  let ds := (cs.take limit).takeWhile Char.isDigit
  if ds.isEmpty then none else some (ds, cs.drop ds.length)

/-- Take a number of one or two digits, after any blanks. -/
def Scan.field : Scan Nat := do
  Scan.blanks
  return digitsValue (← Scan.digits 2)

/-- Take a separator, which may have blanks in front. -/
def Scan.separator (c : Char) : Scan Unit := do
  Scan.blanks
  discard (Scan.char (· == c))

/-- Take a year: any number of digits after a sign, and up to four without. -/
def Scan.year : Scan Int := do
  Scan.blanks
  match ← get with
  | '-' :: rest =>
    set rest
    return -(digitsValue (← Scan.digits rest.length) : Int)
  | '+' :: rest =>
    set rest
    return digitsValue (← Scan.digits rest.length)
  | _ => return digitsValue (← Scan.digits 4)

/-- Take a date. -/
def Scan.date : Scan Date := do
  let year ← Scan.year
  Scan.separator '-'
  let month ← Scan.field
  Scan.separator '-'
  let day ← Scan.field
  return ⟨year, month, day⟩

/-- Take the fraction of a second, if there is one, in nanoseconds.  Digits
behind the ninth do not count. -/
def Scan.fraction : Scan Nat := do
  match ← get with
  | '.' :: rest =>
    set rest
    let ds ← Scan.digits 9
    modify (·.dropWhile Char.isDigit)
    return digitsValue ds * Nat.pow 10 (9 - ds.length)
  | _ => return 0

/-- A time of day: the second it begins with, and the nanoseconds into it. -/
structure TimeOfDay where
  second : Nat
  nanos : Nat
  deriving DecidableEq, Repr

/-- Take a time of day.  Second 60 is a leap second. -/
def Scan.timeOfDay : Scan TimeOfDay := do
  let hour ← Scan.field
  Scan.separator ':'
  let minute ← Scan.field
  Scan.separator ':'
  let second ← Scan.field
  let fraction ← Scan.fraction
  Scan.blanks
  if 24 ≤ hour ∨ 60 ≤ minute ∨ 61 ≤ second then failure
  let start := hour * 3600 + minute * 60
  if second = 60 then return ⟨start + 59, nanosPerSecond + fraction⟩
  return ⟨start + second, fraction⟩

/-- Take exactly two digits. -/
def Scan.twoDigits : Scan Nat := do
  let ds ← Scan.digits 2
  if ds.length = 2 then return digitsValue ds
  failure

/-- Take the zone, as seconds ahead of universal time. -/
def Scan.zone : Scan Int := do
  let cs ← get
  if (cs.take 3).map Char.toUpper = ['U', 'T', 'C'] then
    set (cs.drop 3)
    return 0
  let sign ← Scan.char fun c => c ∈ ['Z', 'z', '+', '-', '\u2212']
  if sign = 'Z' ∨ sign = 'z' then return 0
  let hours ← Scan.twoDigits
  modify (·.dropWhile fun c => c == ':' || Text.isBlank c)
  let minutes ← Scan.twoDigits
  if 24 ≤ hours ∨ 60 ≤ minutes then failure
  let ahead : Int := hours * 3600 + minutes * 60
  return if sign = '+' then ahead else -ahead

/-- Whether the calendar holds a date. -/
def Date.inCalendar (d : Date) : Bool :=
  -262143 ≤ d.year ∧ d.year ≤ 262142 ∧ d.isValid

/-- Take a time stamp. -/
def Scan.instant : Scan Instant := do
  let date ← Scan.date
  discard (Scan.char fun c => c == 'T' || c == 't' || c == ' ')
  let time ← Scan.timeOfDay
  let ahead ← Scan.zone
  Scan.blanks
  if ¬ date.inCalendar then failure
  (Instant.ofParts? (date.toDays * 86400 + time.second - ahead) time.nanos : Option Instant)

/-- The instant that a whole text stands for. -/
def Instant.read? (text : String) : Option Instant :=
  match Scan.instant text.toList with
  | some (i, []) => some i
  | _ => none

end SessionKeeper.Time
