import SessionKeeper.Json.Tree

/-! # What a JSON text looks like

A JSON text consists of the tokens of a tree, with any blanks between them, in front of them
and behind them.  Here this is said without reading a text: how a token is spelled
(`Token.Spelled`), how tokens are laid out (`Layout`), and which tokens a tree has
(`Tree.tokens`).

A token may be spelled in more than one way: a character of a string may be escaped or not,
and an exponent may have a sign and zeros in front.

Core Lean 4 only; no Mathlib. -/

namespace SessionKeeper.Json

open Text (Glyph)

/-! ## Numbers -/

/-- The glyphs are digits with these values. -/
def AreDigits (ds : List Nat) (gs : List Glyph) : Prop :=
  gs.map digit? = ds.map some

/-- No digit stands at the beginning. -/
def NoDigit (gs : List Glyph) : Prop :=
  ∀ g ∈ gs.head?, isDigit g = false

/-- How the digits before the point are spelled: a zero stands only alone. -/
structure WholeSpelled (ds : List Nat) (gs : List Glyph) : Prop where
  digits : AreDigits ds gs
  ne_nil : ds ≠ []
  zero : ds.head? = some 0 → ds = [0]

/-- How the digits behind the point are spelled. -/
inductive FractionSpelled : List Nat → List Glyph → Prop where
  | absent : FractionSpelled [] []
  | point {ds : List Nat} {gs : List Glyph} (digits : AreDigits ds gs) (ne_nil : ds ≠ []) :
      FractionSpelled ds (some '.' :: gs)

/-- How the sign of an exponent is spelled. -/
inductive SignSpelled : Int → List Glyph → Prop where
  | absent : SignSpelled 1 []
  | plus : SignSpelled 1 [some '+']
  | minus : SignSpelled (-1) [some '-']

/-- How an exponent is spelled. -/
inductive ExponentSpelled : Option Int → List Glyph → Prop where
  | absent : ExponentSpelled none []
  | power {mark : Char} {s : Int} {sign gs : List Glyph} {ds : List Nat}
      (mark_eq : mark = 'e' ∨ mark = 'E') (sign_spelled : SignSpelled s sign)
      (digits : AreDigits ds gs) (ne_nil : ds ≠ []) :
      ExponentSpelled (some (s * (numberOfDigits ds : Int))) (some mark :: (sign ++ gs))

/-- How the sign of a number is spelled. -/
def minusText (negative : Bool) : List Glyph :=
  if negative then [some '-'] else []

/-- How a number is spelled. -/
structure Literal.Spelled (l : Literal) (gs : List Glyph) : Prop where
  parts : ∃ whole fraction exponent, WholeSpelled l.whole whole ∧
    FractionSpelled l.fraction fraction ∧ ExponentSpelled l.exponent exponent ∧
    gs = minusText l.negative ++ (whole ++ (fraction ++ exponent))

/-! ## Strings -/

/-- How the pieces of a string are spelled. -/
inductive PiecesSpelled : List Piece → List Glyph → Prop where
  | nil : PiecesSpelled [] []
  | damaged {ps : List Piece} {gs : List Glyph} (rest : PiecesSpelled ps gs) :
      PiecesSpelled (.damaged :: ps) (none :: gs)
  /-- A character that stands for itself. -/
  | plain {c : Char} {ps : List Piece} {gs : List Glyph} (quote : c ≠ '"') (backslash : c ≠ '\\')
      (control : ¬ c.toNat < 0x20) (rest : PiecesSpelled ps gs) :
      PiecesSpelled (.char c :: ps) (some c :: gs)
  /-- A character with a letter of its own. -/
  | escape {e c : Char} {ps : List Piece} {gs : List Glyph} (letter : unescape? e = some c)
      (rest : PiecesSpelled ps gs) : PiecesSpelled (.char c :: ps) (some '\\' :: some e :: gs)
  /-- Four hexadecimal digits. -/
  | unit {a b c d : Glyph} {n : Nat} {ps : List Piece} {gs : List Glyph}
      (digits : hexUnit? a b c d = some n) (rest : PiecesSpelled ps gs) :
      PiecesSpelled (.unit n :: ps) (some '\\' :: some 'u' :: a :: b :: c :: d :: gs)

/-! ## Tokens -/

/-- How a token is spelled. -/
inductive Token.Spelled : Token → List Glyph → Prop where
  | openBracket : Spelled .openBracket [some '[']
  | closeBracket : Spelled .closeBracket [some ']']
  | openBrace : Spelled .openBrace [some '\x7b']
  | closeBrace : Spelled .closeBrace [some '\x7d']
  | comma : Spelled .comma [some ',']
  | colon : Spelled .colon [some ':']
  | null : Spelled .null [some 'n', some 'u', some 'l', some 'l']
  | true : Spelled (.bool true) [some 't', some 'r', some 'u', some 'e']
  | false : Spelled (.bool false) [some 'f', some 'a', some 'l', some 's', some 'e']
  | string {ps : List Piece} {gs : List Glyph} (pieces : PiecesSpelled ps gs) :
      Spelled (.string (textOfPieces? [] ps)) (some '"' :: (gs ++ [some '"']))
  | number {l : Literal} {gs : List Glyph} (literal : l.Spelled gs) : Spelled (.number l) gs

/-- How tokens are laid out in a text, with blanks between them.  Two numbers do not touch. -/
inductive Layout : List Token → List Glyph → Prop where
  | nil : Layout [] []
  | blank {c : Char} {ts : List Token} {gs : List Glyph} (blank : isBlank c = true)
      (rest : Layout ts gs) : Layout ts (some c :: gs)
  | token {t : Token} {ts : List Token} {text gs : List Glyph} (spelled : t.Spelled text)
      (apart : ∀ l, t = .number l → NoDigit gs) (rest : Layout ts gs) :
      Layout (t :: ts) (text ++ gs)

/-! ## Trees -/

mutual

/-- The tokens of a tree. -/
def Tree.tokens : Tree → List Token
  | .null => [.null]
  | .bool b => [.bool b]
  | .number l => [.number l]
  | .string text => [.string text]
  | .array items => .openBracket :: ((itemTokens items).tail ++ [.closeBracket])
  | .object members => .openBrace :: ((memberTokens members).tail ++ [.closeBrace])

/-- The tokens of items, each behind a comma. -/
def Tree.itemTokens : List Tree → List Token
  | [] => []
  | t :: ts => .comma :: (t.tokens ++ itemTokens ts)

/-- The tokens of members, each behind a comma. -/
def Tree.memberTokens : List (Option String × Tree) → List Token
  | [] => []
  | (key, t) :: ms => .comma :: .string key :: .colon :: (t.tokens ++ memberTokens ms)

end

/-- A text is one of the texts of a tree. -/
def Tree.IsText (t : Tree) (gs : List Glyph) : Prop :=
  Layout t.tokens gs

end SessionKeeper.Json
