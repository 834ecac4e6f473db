import SessionKeeper.Json.Grammar
import SessionKeeper.Proofs.Json.RoundTrip

/-! # A text is cut into the tokens that are laid out in it

The reader of tokens finds just the layouts: a text is read as some tokens exactly if it is
a layout of these tokens (`Token.readAll?_eq_some_iff`).  Both directions go through the
parts of a token, from digits to numbers and from pieces to strings.

A number is the one token whose end cannot be seen in the token itself.  The reader takes
all the digits that it finds, so a number is read back only in front of something that could
not go on with it (`Stops`); in a layout that is always so, since no digit may stand there
and no other token begins with a point or an exponent.

Core Lean 4 only; no Mathlib. -/

namespace SessionKeeper.Json

open Text (Glyph)

/-! ### Digits -/

theorem isDigit_of_digit? {g : Glyph} {d : Nat} (h : digit? g = some d) : isDigit g = true := by
  unfold isDigit
  rw [h]
  rfl

namespace AreDigits

theorem eq_nil {ds : List Nat} (h : AreDigits ds []) : ds = [] := by
  unfold AreDigits at h
  rwa [List.map_nil, eq_comm, List.map_eq_nil_iff] at h

theorem cons_iff {ds : List Nat} {g : Glyph} {gs : List Glyph} :
    AreDigits ds (g :: gs) ↔ ∃ d ds', ds = d :: ds' ∧ digit? g = some d ∧ AreDigits ds' gs := by
  unfold AreDigits
  cases ds with
  | nil => simp
  | cons d ds =>
    rw [List.map_cons, List.map_cons, List.cons.injEq]
    constructor
    · rintro ⟨hd, hds⟩
      exact ⟨d, ds, rfl, hd, hds⟩
    · rintro ⟨d', ds', heq, hd, hds⟩
      cases heq
      exact ⟨hd, hds⟩

/-- All of them are found, if no more digits follow. -/
theorem digits_append {ds : List Nat} {gs rest : List Glyph} (h : AreDigits ds gs)
    (hrest : NoDigit rest) : digits (gs ++ rest) = (ds, rest) := by
  induction gs generalizing ds with
  | nil =>
    rw [h.eq_nil]
    cases rest with
    | nil => rfl
    | cons g rest =>
      have hg : isDigit g = false := hrest g rfl
      simp [digits, hg]
  | cons g gs ih =>
    obtain ⟨d, ds', rfl, hd, hds⟩ := cons_iff.mp h
    have hg : isDigit g = true := isDigit_of_digit? hd
    have hmore := ih hds
    unfold digits at hmore ⊢
    obtain ⟨hfound, hleft⟩ := Prod.mk.inj hmore
    rw [List.cons_append, List.takeWhile_cons, List.dropWhile_cons, if_pos hg, if_pos hg,
      List.filterMap_cons_some hd, hfound, hleft]

/-- The first of them is a digit. -/
theorem head {ds : List Nat} {gs : List Glyph} (h : AreDigits ds gs) (hne : ds ≠ []) :
    ∃ g gs', gs = g :: gs' ∧ isDigit g = true := by
  cases gs with
  | nil => exact absurd h.eq_nil hne
  | cons g gs =>
    obtain ⟨d, ds', -, hd, -⟩ := cons_iff.mp h
    exact ⟨g, gs, rfl, isDigit_of_digit? hd⟩

end AreDigits

/-- What is found are digits, as many as there are. -/
theorem digits_spec (gs : List Glyph) :
    ∃ text, gs = text ++ (digits gs).2 ∧ AreDigits (digits gs).1 text ∧ NoDigit (digits gs).2 := by
  induction gs with
  | nil =>
    refine ⟨[], rfl, rfl, ?_⟩
    intro g hg
    cases hg
  | cons g gs ih =>
    by_cases hg : isDigit g = true
    · obtain ⟨text, hsplit, hdigits, hstop⟩ := ih
      obtain ⟨d, hd⟩ := Option.isSome_iff_exists.mp hg
      have hmore : digits (g :: gs) = (d :: (digits gs).1, (digits gs).2) := by
        unfold digits
        rw [List.takeWhile_cons, List.dropWhile_cons, if_pos hg, if_pos hg,
          List.filterMap_cons_some hd]
      rw [hmore]
      refine ⟨g :: text, ?_, ?_, hstop⟩
      · rw [List.cons_append, ← hsplit]
      · exact AreDigits.cons_iff.mpr ⟨d, _, rfl, hd, hdigits⟩
    · have hnone : digits (g :: gs) = ([], g :: gs) := by
        unfold digits
        rw [List.takeWhile_cons, List.dropWhile_cons, if_neg hg, if_neg hg]
        rfl
      rw [hnone]
      refine ⟨[], rfl, rfl, ?_⟩
      intro g' hg'
      cases hg'
      exact Bool.eq_false_iff.mpr hg

/-! ### Numbers -/

/-- What follows a number cannot go on with it. -/
structure Stops (gs : List Glyph) : Prop where
  noDigit : NoDigit gs
  noMark : ∀ c, gs.head? = some (some c) → c ≠ '.' ∧ c ≠ 'e' ∧ c ≠ 'E'

theorem NoDigit.cons {c : Char} {gs : List Glyph} (h : isDigit (some c) = false) :
    NoDigit (some c :: gs) := by
  intro g hg
  cases hg
  exact h

theorem FractionSpelled.noDigit {ds : List Nat} {gs rest : List Glyph} (h : FractionSpelled ds gs)
    (hrest : NoDigit rest) : NoDigit (gs ++ rest) := by
  cases h with
  | absent => exact hrest
  | point digits ne_nil => exact NoDigit.cons (by decide)

theorem ExponentSpelled.stops {e : Option Int} {gs rest : List Glyph} (h : ExponentSpelled e gs)
    (hrest : Stops rest) :
    NoDigit (gs ++ rest) ∧ ∀ c, (gs ++ rest).head? = some (some c) → c ≠ '.' := by
  cases h with
  | absent =>
    refine ⟨hrest.noDigit, ?_⟩
    intro c hc
    exact (hrest.noMark c hc).1
  | power mark_eq sign_spelled digits ne_nil =>
    rcases mark_eq with rfl | rfl
    all_goals
      refine ⟨NoDigit.cons (by decide), ?_⟩
      intro c hc
      cases hc
      decide

theorem minus_spec (gs : List Glyph) : gs = minusText (minus gs).1 ++ (minus gs).2 := by
  unfold minus
  split <;> rfl

theorem minus_append {negative : Bool} {gs : List Glyph} (h : ∃ g gs', gs = g :: gs' ∧
    isDigit g = true) : minus (minusText negative ++ gs) = (negative, gs) := by
  cases negative with
  | true => rfl
  | false =>
    obtain ⟨g, gs', rfl, hg⟩ := h
    show minus (g :: gs') = _
    unfold minus
    split
    · rename_i heq
      cases heq
      exact absurd hg (by decide)
    · rfl

theorem whole?_spec {gs rest : List Glyph} {ds : List Nat} (h : whole? gs = some (ds, rest)) :
    ∃ text, gs = text ++ rest ∧ WholeSpelled ds text ∧ NoDigit rest := by
  obtain ⟨text, hsplit, hdigits, hstop⟩ := digits_spec gs
  unfold whole? at h
  rcases hfound : digits gs with ⟨found, behind⟩
  rw [hfound] at h hsplit hdigits hstop
  split at h
  · cases h
  · cases h
  · rename_i hempty hzero
    cases h
    refine ⟨text, hsplit, ⟨hdigits, ?_, ?_⟩, hstop⟩
    · intro hnil
      exact hempty rest (Prod.ext hnil rfl)
    · -- a zero with another digit behind it was refused
      intro hhead
      cases ds with
      | nil => cases hhead
      | cons d ds =>
        cases hhead
        cases ds with
        | nil => rfl
        | cons d' ds => exact absurd rfl (hzero d' ds rest)

theorem WholeSpelled.whole? {ds : List Nat} {gs rest : List Glyph} (h : WholeSpelled ds gs)
    (hrest : NoDigit rest) : whole? (gs ++ rest) = some (ds, rest) := by
  unfold Json.whole?
  rw [h.digits.digits_append hrest]
  split
  · rename_i heq
    exact absurd (Prod.mk.inj heq).1 h.ne_nil
  · rename_i heq
    have hds := (Prod.mk.inj heq).1
    have hone := h.zero (by rw [hds]; rfl)
    rw [hds] at hone
    cases hone
  · rfl

theorem fraction?_spec {gs rest : List Glyph} {ds : List Nat}
    (h : fraction? gs = some (ds, rest)) (hgs : NoDigit gs) :
    ∃ text, gs = text ++ rest ∧ FractionSpelled ds text ∧ NoDigit rest := by
  unfold fraction? at h
  split at h
  · rename_i behind
    obtain ⟨text, hsplit, hdigits, hstop⟩ := digits_spec behind
    rcases hfound : digits behind with ⟨found, left⟩
    rw [hfound] at h hsplit hdigits hstop
    split at h
    · cases h
    · rename_i hempty
      cases h
      refine ⟨some '.' :: text, ?_, .point hdigits ?_, hstop⟩
      · rw [List.cons_append, ← hsplit]
      · intro hnil
        exact hempty rest (Prod.ext hnil rfl)
  · cases h
    exact ⟨[], rfl, .absent, hgs⟩

theorem FractionSpelled.fraction? {ds : List Nat} {gs rest : List Glyph}
    (h : FractionSpelled ds gs) (hdigit : NoDigit rest)
    (hpoint : ∀ c, rest.head? = some (some c) → c ≠ '.') :
    fraction? (gs ++ rest) = some (ds, rest) := by
  cases h with
  | absent =>
    show Json.fraction? rest = _
    unfold Json.fraction?
    split
    · exact absurd rfl (hpoint '.' rfl)
    · rfl
  | @point ds gs digits ne_nil =>
    show Json.fraction? (some '.' :: (gs ++ rest)) = _
    unfold Json.fraction?
    simp only [digits.digits_append hdigit]
    split
    · rename_i heq
      exact absurd (Prod.mk.inj heq).1 ne_nil
    · rfl

theorem exponentSign_spec (gs : List Glyph) :
    ∃ sign, gs = sign ++ (exponentSign gs).2 ∧ SignSpelled (exponentSign gs).1 sign := by
  unfold exponentSign
  split
  · exact ⟨[some '-'], rfl, .minus⟩
  · exact ⟨[some '+'], rfl, .plus⟩
  · exact ⟨[], rfl, .absent⟩

theorem SignSpelled.exponentSign {s : Int} {sign gs : List Glyph} (h : SignSpelled s sign)
    (hgs : ∃ g gs', gs = g :: gs' ∧ isDigit g = true) : exponentSign (sign ++ gs) = (s, gs) := by
  cases h with
  | plus => rfl
  | minus => rfl
  | absent =>
    obtain ⟨g, gs', rfl, hg⟩ := hgs
    show Json.exponentSign (g :: gs') = _
    unfold Json.exponentSign
    split
    · rename_i heq
      cases heq
      exact absurd hg (by decide)
    · rename_i heq
      cases heq
      exact absurd hg (by decide)
    · rfl

theorem exponent?_spec {gs rest : List Glyph} {e : Option Int}
    (h : exponent? gs = some (e, rest)) (hgs : NoDigit gs) :
    ∃ text, gs = text ++ rest ∧ ExponentSpelled e text ∧ NoDigit rest := by
  unfold exponent? at h
  split at h
  · rename_i c behind
    split at h
    · rename_i hmark
      obtain ⟨sign, hsign, hspelled⟩ := exponentSign_spec behind
      obtain ⟨text, hsplit, hdigits, hstop⟩ := digits_spec (exponentSign behind).2
      split at h
      · cases h
      · rename_i hempty hfound
        cases h
        rw [hfound] at hsplit hdigits hstop
        refine ⟨some c :: (sign ++ text), ?_, .power hmark hspelled hdigits hempty, hstop⟩
        rw [List.cons_append, List.append_assoc, ← hsplit, ← hsign]
    · cases h
      exact ⟨[], rfl, .absent, hgs⟩
  · cases h
    exact ⟨[], rfl, .absent, hgs⟩

theorem ExponentSpelled.exponent? {e : Option Int} {gs rest : List Glyph}
    (h : ExponentSpelled e gs) (hrest : Stops rest) : exponent? (gs ++ rest) = some (e, rest) := by
  cases h with
  | absent =>
    show Json.exponent? rest = _
    unfold Json.exponent?
    split
    · rename_i c behind
      obtain ⟨-, hsmall, hlarge⟩ := hrest.noMark c rfl
      rw [if_neg (not_or.mpr ⟨hsmall, hlarge⟩)]
    · rfl
  | @power mark s sign gs ds mark_eq sign_spelled digits ne_nil =>
    obtain ⟨g, gs', hgs, hg⟩ := digits.head ne_nil
    have hsign : Json.exponentSign (sign ++ (gs ++ rest)) = (s, gs ++ rest) := by
      apply sign_spelled.exponentSign
      rw [hgs]
      exact ⟨g, gs' ++ rest, rfl, hg⟩
    show Json.exponent? (some mark :: ((sign ++ gs) ++ rest)) = _
    unfold Json.exponent?
    dsimp only
    rw [if_pos mark_eq, List.append_assoc, hsign, digits.digits_append hrest.noDigit]
    split
    · rename_i heq
      exact absurd (Prod.mk.inj heq).1 ne_nil
    · rename_i heq
      cases heq
      rfl

/-- What is read as a number is one. -/
theorem Literal.read?_spec {gs rest : List Glyph} {l : Literal}
    (h : Literal.read? gs = some (l, rest)) :
    ∃ text, gs = text ++ rest ∧ l.Spelled text ∧ NoDigit rest := by
  unfold Literal.read? at h
  split at h
  · cases h
  · rename_i whole gs' hwhole
    split at h
    · cases h
    · rename_i fraction gs'' hfraction
      split at h
      · cases h
      · rename_i exponent gs''' hexponent
        cases h
        have hminus := minus_spec gs
        obtain ⟨w, hw, hwspelled, hwstop⟩ := whole?_spec hwhole
        obtain ⟨f, hf, hfspelled, hfstop⟩ := fraction?_spec hfraction hwstop
        obtain ⟨e, he, hespelled, hestop⟩ := exponent?_spec hexponent hfstop
        refine ⟨minusText (minus gs).1 ++ (w ++ (f ++ e)), ?_,
          ⟨w, f, e, hwspelled, hfspelled, hespelled, rfl⟩, hestop⟩
        simp only [List.append_assoc]
        rw [← he, ← hf, ← hw, ← hminus]

/-- A number is read where it stops. -/
theorem Literal.Spelled.read? {l : Literal} {gs rest : List Glyph} (h : l.Spelled gs)
    (hrest : Stops rest) : Literal.read? (gs ++ rest) = some (l, rest) := by
  obtain ⟨⟨w, f, e, hwhole, hfraction, hexponent, rfl⟩⟩ := h
  obtain ⟨hedigit, hepoint⟩ := hexponent.stops hrest
  have hfdigit : NoDigit (f ++ (e ++ rest)) := hfraction.noDigit hedigit
  obtain ⟨g, w', hw, hg⟩ := hwhole.digits.head hwhole.ne_nil
  have hminus : minus (minusText l.negative ++ (w ++ (f ++ (e ++ rest)))) =
      (l.negative, w ++ (f ++ (e ++ rest))) := by
    apply minus_append
    rw [hw]
    exact ⟨g, w' ++ (f ++ (e ++ rest)), rfl, hg⟩
  unfold Literal.read?
  simp only [List.append_assoc]
  rw [hminus]
  dsimp only
  rw [hwhole.whole? hfdigit]
  dsimp only
  rw [hfraction.fraction? hedigit hepoint]
  dsimp only
  rw [hexponent.exponent? hrest]

/-! ### Strings -/

/-- What is read up to a quote are pieces. -/
theorem pieces?_spec {seen : List Piece} {gs rest : List Glyph} {ps : List Piece}
    (h : pieces? seen gs = some (ps, rest)) :
    ∃ more text, gs = text ++ some '"' :: rest ∧ ps = seen.reverse ++ more ∧
      PiecesSpelled more text := by
  fun_induction pieces? seen gs with
  | case1 seen => cases h
  | case2 seen behind ih =>
    obtain ⟨more, text, rfl, rfl, hmore⟩ := ih h
    exact ⟨.damaged :: more, none :: text, rfl, by simp, .damaged hmore⟩
  | case3 seen behind =>
    cases h
    exact ⟨[], [], rfl, by simp, .nil⟩
  | case4 seen a b c d behind n hdigits hslash ih =>
    obtain ⟨more, text, rfl, rfl, hmore⟩ := ih h
    exact ⟨.unit n :: more, some '\\' :: some 'u' :: a :: b :: c :: d :: text, rfl, by simp,
      .unit hdigits hmore⟩
  | case5 => cases h
  | case6 => cases h
  | case7 seen e behind hunit c hletter hslash ih =>
    obtain ⟨more, text, rfl, rfl, hmore⟩ := ih h
    exact ⟨.char c :: more, some '\\' :: some e :: text, rfl, by simp, .escape hletter hmore⟩
  | case8 => cases h
  | case9 => cases h
  | case10 => cases h
  | case11 seen c behind hquote hslash hcontrol ih =>
    obtain ⟨more, text, rfl, rfl, hmore⟩ := ih h
    exact ⟨.char c :: more, some c :: text, rfl, by simp, .plain hquote hslash hcontrol hmore⟩

/-- Pieces are read up to the quote behind them. -/
theorem PiecesSpelled.pieces? {ps : List Piece} {gs : List Glyph} (h : PiecesSpelled ps gs)
    (seen : List Piece) (rest : List Glyph) :
    pieces? seen (gs ++ some '"' :: rest) = some (seen.reverse ++ ps, rest) := by
  induction h generalizing seen with
  | nil =>
    rw [List.nil_append, Json.pieces?.eq_def]
    dsimp only
    rw [if_pos rfl, List.append_nil]
  | damaged more ih =>
    rw [List.cons_append, Json.pieces?.eq_def]
    dsimp only
    rw [ih, List.reverse_cons, List.append_assoc, List.singleton_append]
  | plain quote backslash control more ih =>
    rw [List.cons_append, Json.pieces?.eq_def]
    dsimp only
    rw [if_neg quote, if_neg backslash, if_neg control, ih, List.reverse_cons, List.append_assoc,
      List.singleton_append]
  | @escape e c ps gs letter more ih =>
    -- no character has the letter that announces digits
    have hunit : e ≠ 'u' := by
      intro heq
      have hnone : unescape? 'u' = none := by decide
      rw [heq, hnone] at letter
      cases letter
    rw [List.cons_append, List.cons_append, Json.pieces?.eq_def]
    dsimp only
    rw [if_neg (by decide), if_pos rfl, if_neg hunit]
    simp only [letter]
    rw [ih, List.reverse_cons, List.append_assoc, List.singleton_append]
  | unit digits more ih =>
    simp only [List.cons_append]
    rw [Json.pieces?.eq_def]
    dsimp only
    rw [if_neg (by decide), if_pos rfl, if_pos rfl]
    simp only [digits]
    rw [ih, List.reverse_cons, List.append_assoc, List.singleton_append]

/-! ### Single tokens -/

/-- How a token may begin: not with a blank, and not with what goes on with a number. -/
structure Begins (c : Char) : Prop where
  notBlank : isBlank c = false
  notMark : c ≠ '.' ∧ c ≠ 'e' ∧ c ≠ 'E'

theorem begins_of_digit {c : Char} (h : isDigit (some c) = true) : Begins c := by
  have hne : ∀ d, isDigit (some d) = false → c ≠ d := by
    intro d hd heq
    rw [heq, hd] at h
    cases h
  refine ⟨?_, hne '.' (by decide), hne 'e' (by decide), hne 'E' (by decide)⟩
  have hblank : c ≠ ' ' ∧ c ≠ '\t' ∧ c ≠ '\n' ∧ c ≠ '\r' :=
    ⟨hne _ (by decide), hne _ (by decide), hne _ (by decide), hne _ (by decide)⟩
  simp [isBlank, hblank]

/-- A number begins with a minus sign or a digit. -/
theorem Literal.Spelled.head {l : Literal} {gs : List Glyph} (h : l.Spelled gs) :
    ∃ c rest, gs = some c :: rest ∧ (c = '-' ∨ isDigit (some c) = true) := by
  obtain ⟨⟨w, f, e, hwhole, -, -, rfl⟩⟩ := h
  obtain ⟨g, w', rfl, hg⟩ := hwhole.digits.head hwhole.ne_nil
  cases hnegative : l.negative with
  | true => exact ⟨'-', _, rfl, Or.inl rfl⟩
  | false =>
    cases g with
    | none => exact absurd hg (by decide)
    | some c => exact ⟨c, _, rfl, Or.inr hg⟩

theorem Token.Spelled.head {t : Token} {gs : List Glyph} (h : t.Spelled gs) :
    ∃ c rest, gs = some c :: rest ∧ Begins c := by
  cases h with
  | number literal =>
    obtain ⟨c, rest, rfl, hc⟩ := literal.head
    refine ⟨c, rest, rfl, ?_⟩
    rcases hc with rfl | hdigit
    · exact ⟨by decide, by decide⟩
    · exact begins_of_digit hdigit
  | openBracket | closeBracket | openBrace | closeBrace | comma | colon | null | true | false
  | string =>
    exact ⟨_, _, rfl, by decide, by decide⟩

/-- What is read as a token is one. -/
theorem Token.read?_spec {gs rest : List Glyph} {t : Token} (h : Token.read? gs = some (t, rest)) :
    ∃ text, gs = text ++ rest ∧ t.Spelled text ∧ ∀ l, t = .number l → NoDigit rest := by
  unfold Token.read? at h
  split at h
  case h_10 behind =>
    split at h
    · rename_i ps rest' hpieces
      cases h
      obtain ⟨more, text, rfl, rfl, hmore⟩ := pieces?_spec hpieces
      refine ⟨some '"' :: (text ++ [some '"']), by simp, .string hmore, ?_⟩
      intro l hl
      cases hl
    · cases h
  case h_11 =>
    split at h
    · rename_i l rest' hliteral
      cases h
      obtain ⟨text, hsplit, hspelled, hstop⟩ := Literal.read?_spec hliteral
      refine ⟨text, hsplit, .number hspelled, ?_⟩
      intro l' hl
      exact hstop
    · cases h
  all_goals
    cases h
    refine ⟨_, rfl, by constructor, ?_⟩
    intro l hl
    cases hl

/-- A token is read, if it is no number that could go on. -/
theorem Token.Spelled.read? {t : Token} {gs rest : List Glyph} (h : t.Spelled gs)
    (hrest : ∀ l, t = .number l → Stops rest) : Token.read? (gs ++ rest) = some (t, rest) := by
  cases h with
  | string pieces =>
    show Token.read? (some '"' :: (_ ++ [some '"'] ++ rest)) = _
    rw [List.append_assoc, List.singleton_append, Token.read?]
    simp only [pieces.pieces?, List.reverse_nil, List.nil_append]
  | number literal =>
    obtain ⟨c, text, rfl, hc⟩ := literal.head
    have hread := literal.read? (hrest _ rfl)
    -- no other token begins in this way
    unfold Token.read?
    split
    case h_11 =>
      rw [hread]
    all_goals
      rename_i heq
      obtain ⟨hhead, -⟩ := List.cons.inj heq
      cases hhead
      rcases hc with hc | hc
      · cases hc
      · cases hc
  | openBracket | closeBracket | openBrace | closeBrace | comma | colon | null | true | false =>
    rfl

/-! ### Whole texts -/

/-- Blanks have no tokens. -/
theorem Layout.blanks {gs : List Glyph} (h : Layout [] gs) : ∀ g ∈ gs, g.any isBlank = true := by
  generalize hts : ([] : List Token) = ts at h
  induction h with
  | nil =>
    intro g hg
    cases hg
  | blank blank rest ih =>
    intro g hg
    rcases List.mem_cons.mp hg with rfl | hg
    · exact blank
    · exact ih hts g hg
  | token spelled apart rest ih => cases hts

/-- Nothing in a layout can go on with a number that ends before it. -/
theorem Layout.stops {ts : List Token} {gs : List Glyph} (h : Layout ts gs) (hgs : NoDigit gs) :
    Stops gs := by
  refine ⟨hgs, ?_⟩
  intro c hc
  cases h with
  | nil => cases hc
  | blank blank rest =>
    cases hc
    refine ⟨?_, ?_, ?_⟩
    all_goals
      intro heq
      rw [heq] at blank
      exact absurd blank (by decide)
  | token spelled apart rest =>
    obtain ⟨c', text, rfl, hbegins⟩ := spelled.head
    cases hc
    exact hbegins.notMark

/-- One more token is read. -/
theorem Token.Spelled.readFrom? {t : Token} {text gs : List Glyph} (h : t.Spelled text)
    (hgs : ∀ l, t = .number l → Stops gs) (seen : List Token) :
    Token.readFrom? seen (text ++ gs) = Token.readFrom? (t :: seen) gs := by
  have hread := h.read? hgs
  obtain ⟨c, behind, rfl, hbegins⟩ := h.head
  exact Token.readFrom?_token seen hbegins.notBlank hread

theorem Token.readFrom?_blank {c : Char} (h : isBlank c = true) (seen : List Token)
    (gs : List Glyph) : Token.readFrom? seen (some c :: gs) = Token.readFrom? seen gs := by
  rw [Token.readFrom?, if_pos]
  exact h

theorem Layout.eq_nil {ts : List Token} (h : Layout ts []) : ts = [] := by
  generalize hgs : ([] : List Glyph) = gs at h
  cases h with
  | nil => rfl
  | blank blank rest => cases hgs
  | token spelled apart rest =>
    obtain ⟨c, text, rfl, -⟩ := spelled.head
    cases hgs

/-- The tokens of a layout are read, and then what is behind them, unless it goes on with a
number that stands last. -/
theorem Layout.readFrom?_append {ts : List Token} {gs rest : List Glyph} (h : Layout ts gs)
    (hrest : Stops rest ∨ ∀ l, ts.getLast? ≠ some (.number l)) (seen : List Token) :
    Token.readFrom? seen (gs ++ rest) = Token.readFrom? (ts.reverse ++ seen) rest := by
  induction h generalizing seen with
  | nil => rfl
  | blank blank more ih =>
    rw [List.cons_append, Token.readFrom?_blank blank, ih hrest]
  | @token t ts text gs spelled apart more ih =>
    have hstops : ∀ l, t = .number l → Stops (gs ++ rest) := by
      intro l hl
      have hgs : Stops gs := more.stops (apart l hl)
      cases gs with
      | nil =>
        -- nothing is behind the number, so it is the last token
        rcases hrest with hrest | hlast
        · exact hrest
        · exfalso
          apply hlast l
          rw [more.eq_nil, hl]
          rfl
      | cons g gs => exact ⟨hgs.noDigit, hgs.noMark⟩
    have hrest' : Stops rest ∨ ∀ l, ts.getLast? ≠ some (.number l) := by
      rcases hrest with hrest | hlast
      · exact Or.inl hrest
      · right
        intro l hl
        apply hlast l
        rw [List.getLast?_cons, hl]
        rfl
    rw [List.append_assoc, spelled.readFrom? hstops, ih hrest', List.reverse_cons,
      List.append_assoc, List.singleton_append]

/-- What is read are the tokens of a layout. -/
theorem Token.readFrom?_spec {seen ts : List Token} {gs : List Glyph}
    (h : Token.readFrom? seen gs = some ts) :
    ∃ more, ts = seen.reverse ++ more ∧ Layout more gs := by
  fun_induction Token.readFrom? seen gs with
  | case1 seen =>
    cases h
    exact ⟨[], (List.append_nil _).symm, .nil⟩
  | case2 seen g behind hblank ih =>
    obtain ⟨more, rfl, hmore⟩ := ih h
    cases g with
    | none => cases hblank
    | some c => exact ⟨more, rfl, .blank hblank hmore⟩
  | case3 seen g behind hblank t rest hread ih =>
    obtain ⟨more, rfl, hmore⟩ := ih h
    obtain ⟨text, hsplit, hspelled, hstop⟩ := Token.read?_spec hread
    refine ⟨t :: more, by simp, ?_⟩
    rw [hsplit]
    exact .token hspelled hstop hmore
  | case4 => cases h

/-- **A text is read as just the tokens that are laid out in it.** -/
theorem Token.readAll?_eq_some_iff {gs : List Glyph} {ts : List Token} :
    Token.readAll? gs = some ts ↔ Layout ts gs := by
  constructor
  · intro h
    obtain ⟨more, rfl, hmore⟩ := Token.readFrom?_spec h
    exact hmore
  · intro h
    have hend : Stops [] := by
      constructor
      · intro g hg
        cases hg
      · intro c hc
        cases hc
    have hread := h.readFrom?_append (Or.inl hend) []
    rw [List.append_nil, List.append_nil] at hread
    unfold Token.readAll?
    rw [hread, Token.readFrom?, List.reverse_reverse]

end SessionKeeper.Json
