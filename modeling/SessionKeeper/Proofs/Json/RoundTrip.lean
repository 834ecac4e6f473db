import SessionKeeper.Json.Printer
import SessionKeeper.Json.Tree

/-! # What was written is read again

The reader of JSON is followed over what the writer gives.

* A text between quotes is read as that text (`Token.read?_quote`), whatever characters
  it has.  The writer escapes a character in one of three ways (`Escaped`), and the
  reader gets one piece for each that stands for the character (`Piece.StandsFor`).
* An object whose members are texts is cut into the tokens of those members, in their
  order (`Token.readAll?_writeObject`).

Core Lean 4 only; no Mathlib. -/

namespace SessionKeeper.Json

open Text (Glyph)

/-! ### Strings -/

/-- A text as glyphs, none of them damaged. -/
abbrev sound (cs : List Char) : List Glyph := cs.map some

theorem hexDigit?_hexChar : ∀ n, n < 16 → hexDigit? (some (hexChar n)) = some n := by
  decide

theorem hexUnit?_control {n : Nat} (h : n < 0x20) :
    hexUnit? (some '0') (some '0') (some (hexChar (n / 16))) (some (hexChar (n % 16))) =
      some n := by
  have hhigh := hexDigit?_hexChar (n / 16) (by omega)
  have hlow := hexDigit?_hexChar (n % 16) (by omega)
  have hzero : hexDigit? (some '0') = some 0 := by decide
  have hvalue : ((0 * 16 + 0) * 16 + n / 16) * 16 + n % 16 = n := by omega
  simp only [hexUnit?, hzero, hhigh, hlow, Option.bind_eq_bind, Option.bind_some, hvalue]
  rfl

/-- How a character may stand in a string. -/
inductive Escaped (c : Char) : List Char → Prop where
  /-- By a letter of its own behind a backslash. -/
  | short {e : Char} (letter : unescape? e = some c) (notUnit : e ≠ 'u') : Escaped c ['\\', e]
  /-- By its number. -/
  | unit (control : c.toNat < 0x20) :
      Escaped c ['\\', 'u', '0', '0', hexChar (c.toNat / 16), hexChar (c.toNat % 16)]
  | plain (quote : c ≠ '"') (backslash : c ≠ '\\') (control : ¬ c.toNat < 0x20) : Escaped c [c]

/-- **There is no fourth way.** -/
theorem escapeChar_escaped (c : Char) : Escaped c (escapeChar c) := by
  unfold escapeChar
  by_cases hquote : c = '"'
  · rw [if_pos hquote, hquote]
    exact .short (by decide) (by decide)
  rw [if_neg hquote]
  by_cases hslash : c = '\\'
  · rw [if_pos hslash, hslash]
    exact .short (by decide) (by decide)
  rw [if_neg hslash]
  by_cases hb : c = '\x08'
  · rw [if_pos hb, hb]
    exact .short (by decide) (by decide)
  rw [if_neg hb]
  by_cases hf : c = '\x0c'
  · rw [if_pos hf, hf]
    exact .short (by decide) (by decide)
  rw [if_neg hf]
  by_cases hn : c = '\n'
  · rw [if_pos hn, hn]
    exact .short (by decide) (by decide)
  rw [if_neg hn]
  by_cases hr : c = '\r'
  · rw [if_pos hr, hr]
    exact .short (by decide) (by decide)
  rw [if_neg hr]
  by_cases ht : c = '\t'
  · rw [if_pos ht, ht]
    exact .short (by decide) (by decide)
  rw [if_neg ht]
  by_cases hcontrol : c.toNat < 0x20
  · rw [if_pos hcontrol]
    exact .unit hcontrol
  · rw [if_neg hcontrol]
    exact .plain hquote hslash hcontrol

/-- A piece that stands for one character. -/
inductive Piece.StandsFor (c : Char) : Piece → Prop where
  | char : StandsFor c (.char c)
  | unit (control : c.toNat < 0x20) : StandsFor c (.unit c.toNat)

/-- The reader gets one piece for a character, however it was escaped. -/
theorem Escaped.pieces? {c : Char} {cs : List Char} (h : Escaped c cs) :
    ∃ p : Piece, p.StandsFor c ∧
      ∀ seen rest, pieces? seen (sound cs ++ rest) = pieces? (p :: seen) rest := by
  cases h with
  | @short e letter notUnit =>
    refine ⟨_, .char, fun seen rest => ?_⟩
    show Json.pieces? seen (some '\\' :: some e :: rest) = _
    refine (Json.pieces?.eq_def _ _).trans ?_
    dsimp only
    rw [if_neg (by decide), if_pos rfl]
    simp only [if_neg notUnit, letter]
  | unit control =>
    refine ⟨_, .unit control, fun seen rest => ?_⟩
    show Json.pieces? seen (some '\\' :: some 'u' :: some '0' :: some '0' ::
      some (hexChar (c.toNat / 16)) :: some (hexChar (c.toNat % 16)) :: rest) = _
    refine (Json.pieces?.eq_def _ _).trans ?_
    dsimp only
    rw [if_neg (by decide), if_pos rfl]
    simp only [if_true, hexUnit?_control control]
  | plain quote backslash control =>
    refine ⟨_, .char, fun seen rest => ?_⟩
    show Json.pieces? seen (some c :: rest) = _
    refine (Json.pieces?.eq_def _ _).trans ?_
    dsimp only
    rw [if_neg quote, if_neg backslash, if_neg control]

/-- A control character is no surrogate, so its number stands for it. -/
theorem Piece.StandsFor.text {c : Char} {p : Piece} (h : p.StandsFor c) (seen : List Char)
    (ps : List Piece) : textOfPieces? seen (p :: ps) = textOfPieces? (c :: seen) ps := by
  cases h with
  | char => rfl
  | unit control =>
    refine (textOfPieces?.eq_def _ _).trans ?_
    dsimp only
    rw [if_pos (Or.inl (by omega)), Char.ofNat_toNat]

/-- The pieces of a text between quotes make that text again. -/
theorem pieces?_text (cs : List Char) (seen : List Piece) (rest : List Glyph) :
    ∃ ps, pieces? seen (sound (cs.flatMap escapeChar) ++ some '"' :: rest) =
        some (seen.reverse ++ ps, rest) ∧
      ∀ before, textOfPieces? before ps = some (String.ofList (before.reverse ++ cs)) := by
  induction cs generalizing seen with
  | nil =>
    refine ⟨[], ?_, fun before => ?_⟩
    · rw [List.append_nil]
      show pieces? seen (some '"' :: rest) = _
      unfold pieces?
      rw [if_pos rfl]
    · rw [List.append_nil]
      rfl
  | cons c cs ih =>
    obtain ⟨p, hp, hpieces⟩ := (escapeChar_escaped c).pieces?
    obtain ⟨ps, hps, htext⟩ := ih (p :: seen)
    refine ⟨p :: ps, ?_, fun before => ?_⟩
    · rw [List.flatMap_cons, sound, List.map_append, List.append_assoc, hpieces, hps,
        List.reverse_cons, List.append_assoc, List.singleton_append]
    · rw [hp.text, htext, List.reverse_cons, List.append_assoc, List.singleton_append]

/-- **A text between quotes is read as that text.** -/
theorem Token.read?_quote (text : String) (rest : List Glyph) :
    Token.read? (sound (quote text) ++ rest) = some (.string (some text), rest) := by
  obtain ⟨ps, hps, htext⟩ := pieces?_text text.toList [] rest
  have hglyphs : sound (quote text) ++ rest =
      some '"' :: (sound (text.toList.flatMap escapeChar) ++ some '"' :: rest) := by
    simp [quote, sound]
  rw [hglyphs, Token.read?]
  simp only [hps, List.reverse_nil, List.nil_append, htext, String.ofList_toList]

/-! ### Tokens -/

/-- A token is read, and then the rest. -/
theorem Token.readFrom?_token {g : Glyph} {gs rest : List Glyph} {t : Token} (seen : List Token)
    (hblank : g.any isBlank = false) (h : Token.read? (g :: gs) = some (t, rest)) :
    Token.readFrom? seen (g :: gs) = Token.readFrom? (t :: seen) rest := by
  rw [Token.readFrom?, if_neg (by simp [hblank])]
  split
  · rename_i hread
    cases hread.symm.trans h
    rfl
  · rename_i hread
    cases hread.symm.trans h

theorem Token.readFrom?_quote (seen : List Token) (text : String) (rest : List Glyph) :
    Token.readFrom? seen (sound (quote text) ++ rest) =
      Token.readFrom? (.string (some text) :: seen) rest :=
  Token.readFrom?_token seen rfl (Token.read?_quote text rest)

/-! ### Objects of texts -/

/-- A member of an object, both parts of which are texts. -/
def writeMember (m : String × String) : List Char :=
  quote m.1 ++ ':' :: quote m.2

/-- The tokens of such a member. -/
def memberTokens (m : String × String) : List Token :=
  [.string (some m.1), .colon, .string (some m.2)]

/-- The tokens of members with a comma between any two. -/
def membersTokens : List (String × String) → List Token
  | [] => []
  | [m] => memberTokens m
  | m :: ms => memberTokens m ++ .comma :: membersTokens ms

theorem Token.readFrom?_member (seen : List Token) (m : String × String) (rest : List Glyph) :
    Token.readFrom? seen (sound (writeMember m) ++ rest) =
      Token.readFrom? ((memberTokens m).reverse ++ seen) rest := by
  have hglyphs : sound (writeMember m) ++ rest =
      sound (quote m.1) ++ some ':' :: (sound (quote m.2) ++ rest) := by
    simp [writeMember, sound]
  rw [hglyphs, readFrom?_quote, readFrom?_token _ rfl rfl, readFrom?_quote]
  rfl

theorem Token.readFrom?_members (seen : List Token) (ms : List (String × String))
    (rest : List Glyph) :
    Token.readFrom? seen (sound (commaSeparated (ms.map writeMember)) ++ rest) =
      Token.readFrom? ((membersTokens ms).reverse ++ seen) rest := by
  induction ms generalizing seen with
  | nil => rfl
  | cons m ms ih =>
    cases ms with
    | nil =>
      have hone : commaSeparated [writeMember m] = writeMember m := by simp [commaSeparated]
      rw [List.map_singleton, hone, readFrom?_member]
      rfl
    | cons m' ms =>
      have hmore : sound (commaSeparated ((m :: m' :: ms).map writeMember)) ++ rest =
          sound (writeMember m) ++
            some ',' :: (sound (commaSeparated ((m' :: ms).map writeMember)) ++ rest) := by
        simp [commaSeparated, sound]
      rw [hmore, readFrom?_member, readFrom?_token _ rfl rfl, ih]
      simp [membersTokens]

/-- The text of an object of texts. -/
def writeObject (ms : List (String × String)) : List Char :=
  '\x7b' :: (commaSeparated (ms.map writeMember) ++ ['\x7d'])

theorem Token.readAll?_writeObject (ms : List (String × String)) :
    Token.readAll? (sound (writeObject ms)) =
      some (.openBrace :: (membersTokens ms ++ [.closeBrace])) := by
  have hglyphs : sound (writeObject ms) =
      some '\x7b' :: (sound (commaSeparated (ms.map writeMember)) ++ [some '\x7d']) := by
    simp [writeObject, sound]
  rw [hglyphs, readAll?, readFrom?_token _ rfl rfl, readFrom?_members, readFrom?_token _ rfl rfl,
    readFrom?]
  simp

/-- A member as a part of a tree. -/
def treeMember (m : String × String) : Option String × Tree :=
  (some m.1, .string (some m.2))

end SessionKeeper.Json
