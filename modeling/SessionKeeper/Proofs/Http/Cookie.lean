import SessionKeeper.Http.Message

/-! # Cookies that a response sets

A header sets a cookie if a name, an equals sign and a value stand before its first
semicolon, with or without blanks around them (`Sets`).  A response may set cookies of one
name more than once; then the first header that can be read counts
(`Response.SetsCookie`), and just this cookie is found (`Response.cookie?_eq_some_iff`).
So a header that does not set the cookie is as good as absent, and one that is written in
the plain form, name and value and then the attributes, gives the value as it was written
(`Response.cookie_found`).

What was found in a header can stand in a header again
(`Response.SetsCookie.isFieldValue`).

Core Lean 4 only; no Mathlib. -/

namespace SessionKeeper

namespace Text

/-- Trimming adds nothing. -/
theorem mem_of_mem_trim {c : Char} {cs : List Char} (h : c ∈ trim cs) : c ∈ cs := by
  have hback : c ∈ skipBlanks (skipBlanks cs).reverse := List.mem_reverse.mp h
  have hfront : c ∈ (skipBlanks cs).reverse := (List.dropWhile_sublist isBlank).mem hback
  exact (List.dropWhile_sublist isBlank).mem (List.mem_reverse.mp hfront)

/-- No blank stands at either end of a text. -/
structure Trimmed (cs : List Char) : Prop where
  first : ∀ c ∈ cs.head?, isBlank c = false
  last : ∀ c ∈ cs.getLast?, isBlank c = false

theorem skipBlanks_eq_self {cs : List Char} (h : ∀ c ∈ cs.head?, isBlank c = false) :
    skipBlanks cs = cs := by
  cases cs with
  | nil => rfl
  | cons c cs =>
    have hc : isBlank c = false := h c rfl
    show List.dropWhile isBlank (c :: cs) = c :: cs
    rw [List.dropWhile_cons, if_neg (by simp [hc])]

theorem Trimmed.trim_eq {cs : List Char} (h : Trimmed cs) : trim cs = cs := by
  have hback : ∀ c ∈ cs.reverse.head?, isBlank c = false := by
    intro c hc
    rw [List.head?_reverse] at hc
    exact h.last c hc
  unfold trim
  rw [skipBlanks_eq_self h.first, skipBlanks_eq_self hback, List.reverse_reverse]

end Text

namespace Http

/-! ### Single headers -/

/-- A header sets a cookie. -/
structure Sets (header name value : String) : Prop where
  pair : Text.trim (header.toList.takeWhile (· != ';')) = name.toList ++ '=' :: value.toList
  /-- The first equals sign ends the name. -/
  name : '=' ∉ name.toList

theorem splitAt?_cons (sep c : Char) (cs : List Char) :
    splitAt? sep (c :: cs) =
      if c = sep then some ([], cs) else (splitAt? sep cs).map fun p => (c :: p.1, p.2) := by
  unfold splitAt?
  by_cases h : c = sep
  · simp [h]
  · simp only [List.dropWhile_cons, List.takeWhile_cons, bne_iff_ne.mpr h, if_true, if_neg h]
    cases cs.dropWhile (· != sep) <;> rfl

/-- A text is split at the first of the characters. -/
theorem splitAt?_eq_some_iff {sep : Char} {cs before after : List Char} :
    splitAt? sep cs = some (before, after) ↔ cs = before ++ sep :: after ∧ sep ∉ before := by
  induction cs generalizing before with
  | nil =>
    constructor
    · intro h
      cases h
    · rintro ⟨hnil, -⟩
      simp at hnil
  | cons c cs ih =>
    rw [splitAt?_cons]
    by_cases hc : c = sep
    · -- it stands here, so nothing is before it
      rw [if_pos hc, hc]
      constructor
      · intro h
        cases h
        exact ⟨rfl, List.not_mem_nil⟩
      · rintro ⟨hsplit, hnew⟩
        cases before with
        | nil =>
          cases hsplit
          rfl
        | cons b before =>
          cases hsplit
          exact absurd List.mem_cons_self hnew
    · rw [if_neg hc, Option.map_eq_some_iff]
      constructor
      · rintro ⟨⟨before', after'⟩, hsplit, heq⟩
        cases heq
        obtain ⟨rfl, hnew⟩ := ih.mp hsplit
        exact ⟨rfl, List.not_mem_cons_of_ne_of_not_mem (Ne.symm hc) hnew⟩
      · rintro ⟨hsplit, hnew⟩
        cases before with
        | nil =>
          cases hsplit
          exact absurd rfl hc
        | cons b before =>
          cases hsplit
          exact ⟨(before, after), ih.mpr ⟨rfl, List.not_mem_of_not_mem_cons hnew⟩, rfl⟩

theorem cookieOf?_eq_some_iff {header name value : String} :
    cookieOf? header = some (name.toList, value.toList) ↔ Sets header name value := by
  unfold cookieOf?
  rw [splitAt?_eq_some_iff]
  exact ⟨fun h => ⟨h.1, h.2⟩, fun h => ⟨h.pair, h.name⟩⟩

/-- The cookies found by a name are those that a header sets by this name. -/
theorem any_cookieOf?_iff {header name : String} :
    (cookieOf? header).any (·.1 == name.toList) = true ↔ ∃ value, Sets header name value := by
  rw [Option.any_eq_true]
  constructor
  · rintro ⟨⟨found, value⟩, hcookie, hname⟩
    have hfound : found = name.toList := eq_of_beq hname
    rw [hfound, ← String.toList_ofList (l := value)] at hcookie
    exact ⟨_, cookieOf?_eq_some_iff.mp hcookie⟩
  · rintro ⟨value, hsets⟩
    exact ⟨_, cookieOf?_eq_some_iff.mpr hsets, beq_self_eq_true _⟩

/-- A header that has no equals sign before its first semicolon sets no cookie. -/
theorem cookieOf?_eq_none {header : String}
    (h : '=' ∉ header.toList.takeWhile (· != ';')) : cookieOf? header = none := by
  rw [Option.eq_none_iff_forall_ne_some]
  rintro ⟨before, after⟩ hcookie
  unfold cookieOf? at hcookie
  obtain ⟨hsplit, -⟩ := splitAt?_eq_some_iff.mp hcookie
  apply h
  apply Text.mem_of_mem_trim
  rw [hsplit]
  exact List.mem_append_right before List.mem_cons_self

/-- A name by which cookies are asked for. -/
structure IsCookieName (name : String) : Prop where
  trimmed : Text.Trimmed name.toList
  noEquals : '=' ∉ name.toList
  noSemicolon : ';' ∉ name.toList

/-- **A cookie that is written plainly is set as it is written.**  The value may have equals
signs and leading blanks; the attributes may be anything. -/
theorem IsCookieName.sets {name value attributes : String} (h : IsCookieName name)
    (hvalue : ';' ∉ value.toList) (hlast : ∀ c ∈ value.toList.getLast?, Text.isBlank c = false)
    (hattributes : ∀ c ∈ attributes.toList.head?, c = ';') :
    Sets (name ++ "=" ++ value ++ attributes) name value := by
  have hlist : (name ++ "=" ++ value ++ attributes).toList =
      (name.toList ++ '=' :: value.toList) ++ attributes.toList := by
    simp [String.toList_append]
  -- the first semicolon begins the attributes
  have hbefore : ∀ c ∈ name.toList ++ '=' :: value.toList, (c != ';') = true := by
    intro c hc
    rw [bne_iff_ne]
    intro heq
    rw [heq, List.mem_append, List.mem_cons] at hc
    rcases hc with hin | heq | hin
    · exact h.noSemicolon hin
    · exact absurd heq (by decide)
    · exact hvalue hin
  have hbehind : attributes.toList.takeWhile (· != ';') = [] := by
    cases hcs : attributes.toList with
    | nil => rfl
    | cons c cs =>
      have hc : c = ';' := hattributes c (by rw [hcs]; rfl)
      rw [List.takeWhile_cons, if_neg (by simp [hc])]
  have hpart : (name ++ "=" ++ value ++ attributes).toList.takeWhile (· != ';') =
      name.toList ++ '=' :: value.toList := by
    rw [hlist, List.takeWhile_append_of_pos hbefore, hbehind, List.append_nil]
  -- nothing of it is trimmed, not even where the name or the value is empty
  have htrimmed : Text.Trimmed (name.toList ++ '=' :: value.toList) := by
    constructor
    · intro c hc
      cases hcs : name.toList with
      | nil =>
        rw [hcs] at hc
        cases hc
        decide
      | cons first cs =>
        rw [hcs] at hc
        apply h.trimmed.first c
        rw [hcs]
        exact hc
    · intro c hc
      rw [List.getLast?_append, List.getLast?_cons] at hc
      cases hcs : value.toList.getLast? with
      | none =>
        rw [hcs] at hc
        cases hc
        decide
      | some last =>
        rw [hcs] at hc
        apply hlast c
        rw [hcs]
        exact hc
  constructor
  · rw [hpart, htrimmed.trim_eq]
  · exact h.noEquals

namespace Response

variable {r : Response} {name value : String}

/-! ### Whole responses -/

/-- The first readable header of a response that sets a cookie of a name gives it a
value. -/
def SetsCookie (r : Response) (name value : String) : Prop :=
  ∃ before header after, r.headers.all setCookie = before ++ header :: after ∧
    isReadable header = true ∧ Sets header name value ∧
    ∀ earlier ∈ before, isReadable earlier = true → ∀ other, ¬ Sets earlier name other

/-- **The cookie of a name is the one that the first readable header sets.** -/
theorem cookie?_eq_some_iff : r.cookie? name = some value ↔ r.SetsCookie name value := by
  -- the search passes over a header unless it is readable and sets a cookie of the name
  have hpass : ∀ header, (!decide (isReadable header = true ∧
      (cookieOf? header).any (·.1 == name.toList) = true)) = true ↔
      (isReadable header = true → ∀ other, ¬ Sets header name other) := by
    intro header
    rw [Bool.not_eq_true', decide_eq_false_iff_not, any_cookieOf?_iff, not_and, not_exists]
  unfold cookie?
  simp only [List.find?_filterMap, List.find?_filter, Option.map_eq_some_iff,
    Option.bind_eq_some_iff, List.find?_eq_some_iff_append, decide_eq_true_eq, hpass,
    any_cookieOf?_iff]
  constructor
  · rintro ⟨⟨found, cs⟩, ⟨header, ⟨⟨hreadable, other, hsets⟩, before, after, hsplit, hbefore⟩,
      hcookie⟩, rfl⟩
    -- the header sets no other cookie than the one found
    cases (cookieOf?_eq_some_iff.mpr hsets).symm.trans hcookie
    rw [String.ofList_toList]
    exact ⟨before, header, after, hsplit, hreadable, hsets, hbefore⟩
  · rintro ⟨before, header, after, hsplit, hreadable, hsets, hbefore⟩
    exact ⟨(name.toList, value.toList), ⟨header, ⟨⟨hreadable, value, hsets⟩, before, after, hsplit,
      hbefore⟩, cookieOf?_eq_some_iff.mpr hsets⟩, String.ofList_toList⟩

theorem cookie?_eq_none_iff : r.cookie? name = none ↔ ∀ value, ¬ r.SetsCookie name value := by
  simp only [Option.eq_none_iff_forall_ne_some, ne_eq, cookie?_eq_some_iff]

/-- A header that does not set the cookie may be left out. -/
theorem cookie?_eq_of_passedOver {r' : Response} {before after : List String} {header : String}
    (h : r.headers.all setCookie = before ++ header :: after)
    (h' : r'.headers.all setCookie = before ++ after)
    (hpass : isReadable header = true → ∀ c, cookieOf? header = some c → c.1 ≠ name.toList) :
    r.cookie? name = r'.cookie? name := by
  unfold cookie?
  rw [h, h']
  simp only [List.filter_append, List.filterMap_append, List.find?_append]
  -- what is found among the headers from this one on is found behind it
  have hrest : (((header :: after).filter isReadable).filterMap cookieOf?).find?
      (·.1 == name.toList) = ((after.filter isReadable).filterMap cookieOf?).find?
      (·.1 == name.toList) := by
    by_cases hreadable : isReadable header = true
    · rw [List.filter_cons_of_pos hreadable]
      cases hcookie : cookieOf? header with
      | none => rw [List.filterMap_cons_none hcookie]
      | some c =>
        have hname : (c.1 == name.toList) = false :=
          beq_eq_false_iff_ne.mpr (hpass hreadable c hcookie)
        rw [List.filterMap_cons_some hcookie, List.find?_cons, hname]
    · rw [List.filter_cons_of_neg hreadable]
  rw [hrest]

/-- **The cookie is found, and nothing else.**  Take any response, and a name without equals
sign, semicolon and blanks at its ends.

* A value is found exactly if the first readable header that sets a cookie of this name
  gives it this value: the header has just the name before the first equals sign of what
  stands, trimmed, before its first semicolon, and the value behind that equals sign.
* So a value that was written behind the name and an equals sign, with any attributes behind
  it, is found as it was written, if it has no semicolon and no blank at its end; it may have
  equals signs.
* A header may be left out, wherever it stands, if it is not readable, if it has no equals
  sign before its first semicolon, or if it sets a cookie of another name.  It does not
  matter what the value and the attributes of that other cookie are, so they may well look
  like a cookie of this name. -/
theorem cookie_found (r : Response) (name : String) (hname : IsCookieName name) :
    (∀ value, r.cookie? name = some value ↔ r.SetsCookie name value) ∧
    (∀ before after value attributes,
      r.headers.all setCookie = before ++ (name ++ "=" ++ value ++ attributes) :: after →
      isReadable (name ++ "=" ++ value ++ attributes) = true →
      (∀ earlier ∈ before, isReadable earlier = true → ∀ other, ¬ Sets earlier name other) →
      ';' ∉ value.toList → (∀ c ∈ value.toList.getLast?, Text.isBlank c = false) →
      (∀ c ∈ attributes.toList.head?, c = ';') → r.cookie? name = some value) ∧
    ∀ (r' : Response) before header after, r.headers.all setCookie = before ++ header :: after →
      r'.headers.all setCookie = before ++ after →
      isReadable header = false ∨ '=' ∉ header.toList.takeWhile (· != ';') ∨
        (∃ other value, other ≠ name ∧ Sets header other value) →
      r.cookie? name = r'.cookie? name := by
  refine ⟨fun value => cookie?_eq_some_iff, ?_, ?_⟩
  · intro before after value attributes hheaders hreadable hbefore hvalue hlast hattributes
    rw [cookie?_eq_some_iff]
    have hsets : Sets (name ++ "=" ++ value ++ attributes) name value :=
      hname.sets hvalue hlast hattributes
    exact ⟨before, _, after, hheaders, hreadable, hsets, hbefore⟩
  · intro r' before header after hheaders hheaders' hother
    apply cookie?_eq_of_passedOver hheaders hheaders'
    intro hreadable c hcookie heq
    rcases hother with hunreadable | hplain | ⟨other, value, hne, hsets⟩
    · rw [hreadable] at hunreadable
      cases hunreadable
    · rw [cookieOf?_eq_none hplain] at hcookie
      cases hcookie
    · -- the header sets one cookie only, and that is the other one
      rw [cookieOf?_eq_some_iff.mpr hsets] at hcookie
      cases hcookie
      exact hne (String.toList_inj.mp heq)

/-- The first header has an attribute of the name, the second cannot be read, the third has
no equals sign, and the fourth has the name in its value; they hide nothing. -/
theorem cookie_found_last :
    let token := "refreshToken"
    let others := ["theme=dark; refreshToken=a", "refreshToken=\u00e9", "Secure; refreshToken=b",
      "last=refreshToken=c"]
    let r : Response := { status := 200, headers := ⟨(others ++ ["refreshToken=d=e; Path=/"]).map
      fun header => (setCookie, header)⟩ }
    IsCookieName token ∧ r.cookie? token = some "d=e" := by
  intro token others r
  have hname : IsCookieName token := by
    refine ⟨⟨?_, ?_⟩, by decide, by decide⟩
    · have hfirst : token.toList.head? = some 'r' := by decide
      intro c hc
      rw [hfirst] at hc
      cases hc
      decide
    · have hlast : token.toList.getLast? = some 'n' := by decide
      intro c hc
      rw [hlast] at hc
      cases hc
      decide
  have hothers : ∀ earlier ∈ others, isReadable earlier = true →
      ∀ other, ¬ Sets earlier token other := by
    have hnone : ∀ earlier ∈ others, isReadable earlier = true →
        (cookieOf? earlier).any (·.1 == token.toList) = false := by
      decide
    intro earlier hmem hreadable other hsets
    have hany := any_cookieOf?_iff.mpr ⟨other, hsets⟩
    rw [hnone earlier hmem hreadable] at hany
    cases hany
  have hlast : ∀ c ∈ "d=e".toList.getLast?, Text.isBlank c = false := by
    intro c hc
    have heq : some 'e' = some c := hc
    cases heq
    decide
  have hattributes : ∀ c ∈ "; Path=/".toList.head?, c = ';' := by
    intro c hc
    have heq : some ';' = some c := hc
    cases heq
    decide
  refine ⟨hname, ?_⟩
  exact (cookie_found r token hname).2.1 others [] "d=e" "; Path=/" (by decide) (by decide) hothers
    (by decide) hlast hattributes

/-- **A cookie that was found can be sent back.** -/
theorem SetsCookie.isFieldValue (h : r.SetsCookie name value) :
    isFieldValue (name ++ "=" ++ value) = true := by
  obtain ⟨before, header, after, -, hreadable, hsets, -⟩ := h
  have hlist : (name ++ "=" ++ value).toList = Text.trim (header.toList.takeWhile (· != ';')) := by
    rw [hsets.pair, String.toList_append, String.toList_append, List.append_assoc]
    rfl
  unfold Http.isFieldValue
  rw [hlist, List.all_eq_true]
  intro c hc
  -- every character of it comes from the header
  have hmem : c ∈ header.toList := (List.takeWhile_sublist _).mem (Text.mem_of_mem_trim hc)
  have hchar := List.all_eq_true.mp hreadable c hmem
  simp only [Bool.or_eq_true, Bool.and_eq_true, decide_eq_true_eq, bne_iff_ne] at hchar ⊢
  rcases hchar with htab | ⟨hblank, hdelete⟩
  · exact Or.inl htab
  · exact Or.inr ⟨hblank, by omega⟩

end Response

end Http

end SessionKeeper
