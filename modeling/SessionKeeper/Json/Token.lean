import SessionKeeper.Text.Basic
import SessionKeeper.Text.Bytes

/-! # JSON tokens

A JSON text is first cut into tokens: six marks, three words, numbers and
strings.  Tokens keep what a later reader may still want to refuse.  A number
keeps its digits, since only some readers care for its size, and a string
knows whether it stands for a text at all: damaged bytes and surrogates that
form no pair are faults only in a string that somebody reads.

Core Lean 4 only; no Mathlib. -/

namespace SessionKeeper.Json

open Text (Glyph)

/-- A number as it is written. -/
structure Literal where
  negative : Bool := false
  /-- The digits before the point. -/
  whole : List Nat
  /-- The digits after the point; none if there is no point. -/
  fraction : List Nat := []
  exponent : Option Int := none
  deriving DecidableEq, Repr

/-- A lexical unit of a JSON text. -/
inductive Token where
  | openBracket
  | closeBracket
  | openBrace
  | closeBrace
  | comma
  | colon
  | null
  | bool (b : Bool)
  | number (literal : Literal)
  /-- `none` stands for a string that has no text. -/
  | string (text : Option String)
  deriving DecidableEq, Repr

/-- The blanks that JSON allows between tokens. -/
def isBlank (c : Char) : Bool :=
  c == ' ' || c == '\t' || c == '\n' || c == '\r'

/-! ## Strings -/

/-- A part of a string between its quotes. -/
inductive Piece where
  | char (c : Char)
  /-- A UTF-16 code unit, written by its four hexadecimal digits. -/
  | unit (n : Nat)
  | damaged
  deriving DecidableEq, Repr

/-- What a backslash and one further letter stand for. -/
def unescape? (c : Char) : Option Char :=
  match c with
  | '"' => some '"'
  | '\\' => some '\\'
  | '/' => some '/'
  | 'b' => some '\x08'
  | 'f' => some '\x0c'
  | 'n' => some '\n'
  | 'r' => some '\r'
  | 't' => some '\t'
  | _ => none

/-- The value of a hexadecimal digit of either case. -/
def hexDigit? (g : Glyph) : Option Nat :=
  g.bind Text.hexValue?

/-- The number that four hexadecimal digits write. -/
def hexUnit? (a b c d : Glyph) : Option Nat := do
  let a ← hexDigit? a
  let b ← hexDigit? b
  let c ← hexDigit? c
  let d ← hexDigit? d
  return ((a * 16 + b) * 16 + c) * 16 + d

/-- The pieces of a string whose opening quote has been read, and what
follows its closing quote.  `seen` holds the pieces so far, newest first. -/
def pieces? (seen : List Piece) : List Glyph → Option (List Piece × List Glyph)
  | [] => none
  | none :: rest => pieces? (.damaged :: seen) rest
  | some c :: rest =>
    if c = '"' then some (seen.reverse, rest)
    else if c = '\\' then
      match rest with
      | some e :: rest =>
        if e = 'u' then
          match rest with
          | a :: b :: c :: d :: rest =>
            match hexUnit? a b c d with
            | some n => pieces? (.unit n :: seen) rest
            | none => none
          | _ => none
        else
          match unescape? e with
          | some c => pieces? (.char c :: seen) rest
          | none => none
      | _ => none
    else if c.toNat < 0x20 then none
    else pieces? (.char c :: seen) rest

/-- The text of a string's pieces.  A leading surrogate needs a trailing one
right behind it, and a trailing one stands nowhere else. -/
def textOfPieces? (seen : List Char) : List Piece → Option String
  | [] => some (String.ofList seen.reverse)
  | .damaged :: _ => none
  | .char c :: rest => textOfPieces? (c :: seen) rest
  | .unit n :: rest =>
    if n < 0xD800 ∨ 0xE000 ≤ n then textOfPieces? (Char.ofNat n :: seen) rest
    else if 0xDC00 ≤ n then none
    else
      match rest with
      | .unit m :: rest =>
        if 0xDC00 ≤ m ∧ m < 0xE000 then
          textOfPieces? (Char.ofNat (0x10000 + (n - 0xD800) * 0x400 + (m - 0xDC00)) :: seen) rest
        else none
      | _ => none

/-! ## Numbers -/

/-- The value of a decimal digit. -/
def digit? (g : Glyph) : Option Nat :=
  match g with
  | some c => if '0' ≤ c ∧ c ≤ '9' then some (c.toNat - '0'.toNat) else none
  | none => none

/-- Whether a glyph is a decimal digit. -/
def isDigit (g : Glyph) : Bool :=
  (digit? g).isSome

/-- The digits at the beginning of a text, and what follows them. -/
def digits (gs : List Glyph) : List Nat × List Glyph :=
  ((gs.takeWhile isDigit).filterMap digit?, gs.dropWhile isDigit)

/-- The number that a list of digits writes. -/
def numberOfDigits (ds : List Nat) : Nat :=
  ds.foldl (fun n d => n * 10 + d) 0

/-- Whether there is a minus sign, and what follows it. -/
def minus (gs : List Glyph) : Bool × List Glyph :=
  match gs with
  | some '-' :: rest => (true, rest)
  | _ => (false, gs)

/-- The digits before the point: one zero, or any that do not begin with it. -/
def whole? (gs : List Glyph) : Option (List Nat × List Glyph) :=
  match digits gs with
  | ([], _) => none
  | (0 :: _ :: _, _) => none
  | found => some found

/-- The digits after a point, if there is a point. -/
def fraction? (gs : List Glyph) : Option (List Nat × List Glyph) :=
  match gs with
  | some '.' :: rest =>
    match digits rest with
    | ([], _) => none
    | found => some found
  | _ => some ([], gs)

/-- The sign of an exponent and what follows it. -/
def exponentSign (gs : List Glyph) : Int × List Glyph :=
  match gs with
  | some '-' :: rest => (-1, rest)
  | some '+' :: rest => (1, rest)
  | _ => (1, gs)

/-- The exponent, if there is one. -/
def exponent? (gs : List Glyph) : Option (Option Int × List Glyph) :=
  match gs with
  | some c :: rest =>
    if c = 'e' ∨ c = 'E' then
      match digits (exponentSign rest).2 with
      | ([], _) => none
      | (ds, rest') => some (some ((exponentSign rest).1 * (numberOfDigits ds : Int)), rest')
    else some (none, gs)
  | _ => some (none, gs)

/-- The number at the beginning of a text, and what follows it. -/
def Literal.read? (gs : List Glyph) : Option (Literal × List Glyph) :=
  match whole? (minus gs).2 with
  | none => none
  | some (whole, gs') =>
    match fraction? gs' with
    | none => none
    | some (fraction, gs'') =>
      match exponent? gs'' with
      | none => none
      | some (exponent, rest) => some (⟨(minus gs).1, whole, fraction, exponent⟩, rest)

/-! ## Every part of a text is shorter than the text -/

theorem pieces?_length_le {seen : List Piece} {gs : List Glyph} {found : List Piece × List Glyph}
    (h : pieces? seen gs = some found) : found.2.length ≤ gs.length := by
  fun_induction pieces? seen gs
  all_goals first
    | cases h
    | (rename_i ih; have := ih h)
  all_goals
    simp only [List.length_cons] at *
    omega

theorem digits_length_le (gs : List Glyph) : (digits gs).2.length ≤ gs.length :=
  (List.dropWhile_sublist isDigit).length_le

theorem minus_length_le (gs : List Glyph) : (minus gs).2.length ≤ gs.length := by
  unfold minus
  split <;> simp

theorem exponentSign_length_le (gs : List Glyph) : (exponentSign gs).2.length ≤ gs.length := by
  unfold exponentSign
  split <;> simp

theorem digits_length_lt {gs : List Glyph} (h : (digits gs).1 ≠ []) :
    (digits gs).2.length < gs.length := by
  cases gs with
  | nil => simp [digits] at h
  | cons g gs =>
    by_cases hg : isDigit g = true
    · have := (List.dropWhile_sublist (l := gs) isDigit).length_le
      simp only [digits, List.dropWhile_cons, hg, if_true, List.length_cons]
      omega
    · simp [digits, hg] at h

theorem whole?_length_lt {gs : List Glyph} {found : List Nat × List Glyph}
    (h : whole? gs = some found) : found.2.length < gs.length := by
  unfold whole? at h
  split at h
  · cases h
  · cases h
  · next hne _ =>
    cases h
    exact digits_length_lt fun h0 => hne (digits gs).2 (Prod.ext h0 rfl)

theorem fraction?_length_le {gs : List Glyph} {found : List Nat × List Glyph}
    (h : fraction? gs = some found) : found.2.length ≤ gs.length := by
  unfold fraction? at h
  split at h
  · next rest =>
    have := digits_length_le rest
    split at h
    · cases h
    · cases h
      simp only [List.length_cons]
      omega
  · cases h
    exact Nat.le_refl _

theorem exponent?_length_le {gs : List Glyph} {found : Option Int × List Glyph}
    (h : exponent? gs = some found) : found.2.length ≤ gs.length := by
  unfold exponent? at h
  split at h
  · next rest =>
    have h₁ := digits_length_le (exponentSign rest).2
    have h₂ := exponentSign_length_le rest
    split at h
    · split at h
      · cases h
      · next heq =>
        cases h
        rw [heq] at h₁
        simp only [List.length_cons] at h₁ ⊢
        omega
    · cases h
      exact Nat.le_refl _
  · cases h
    exact Nat.le_refl _

theorem Literal.read?_length_lt {gs : List Glyph} {found : Literal × List Glyph}
    (h : Literal.read? gs = some found) : found.2.length < gs.length := by
  unfold Literal.read? at h
  split at h
  · cases h
  · next h₁ =>
    split at h
    · cases h
    · next h₂ =>
      split at h
      · cases h
      · next h₃ =>
        cases h
        have := minus_length_le gs
        have := whole?_length_lt h₁
        have := fraction?_length_le h₂
        have := exponent?_length_le h₃
        simp only at *
        omega

/-! ## Tokens -/

/-- The token at the beginning of a text that does not begin with a blank,
and what follows it. -/
def Token.read? (gs : List Glyph) : Option (Token × List Glyph) :=
  match gs with
  | some '[' :: rest => some (.openBracket, rest)
  | some ']' :: rest => some (.closeBracket, rest)
  | some '\x7b' :: rest => some (.openBrace, rest)
  | some '\x7d' :: rest => some (.closeBrace, rest)
  | some ',' :: rest => some (.comma, rest)
  | some ':' :: rest => some (.colon, rest)
  | some 'n' :: some 'u' :: some 'l' :: some 'l' :: rest => some (.null, rest)
  | some 't' :: some 'r' :: some 'u' :: some 'e' :: rest => some (.bool true, rest)
  | some 'f' :: some 'a' :: some 'l' :: some 's' :: some 'e' :: rest => some (.bool false, rest)
  | some '"' :: rest =>
    match pieces? [] rest with
    | some (ps, rest') => some (.string (textOfPieces? [] ps), rest')
    | none => none
  | gs =>
    match Literal.read? gs with
    | some (l, rest) => some (.number l, rest)
    | none => none

theorem Token.read?_length_lt {gs : List Glyph} {found : Token × List Glyph}
    (h : Token.read? gs = some found) : found.2.length < gs.length := by
  unfold Token.read? at h
  split at h
  case h_10 rest =>
    split at h
    · next hp =>
      cases h
      have := pieces?_length_le hp
      simp only [List.length_cons] at *
      omega
    · cases h
  case h_11 =>
    split at h
    · next hl =>
      cases h
      exact Literal.read?_length_lt hl
    · cases h
  all_goals
    cases h
    simp only [List.length_cons]
    omega

/-- The tokens of a text, behind those already read, newest first. -/
def Token.readFrom? (seen : List Token) (gs : List Glyph) : Option (List Token) :=
  match gs with
  | [] => some seen.reverse
  | g :: rest =>
    if g.any isBlank then readFrom? seen rest
    else
      match _h : Token.read? (g :: rest) with
      | some (t, rest') => readFrom? (t :: seen) rest'
      | none => none
termination_by gs.length
decreasing_by
  · simp
  · exact Token.read?_length_lt _h

/-- The tokens of a whole text, if it is made of tokens and blanks. -/
def Token.readAll? (gs : List Glyph) : Option (List Token) :=
  Token.readFrom? [] gs

end SessionKeeper.Json
