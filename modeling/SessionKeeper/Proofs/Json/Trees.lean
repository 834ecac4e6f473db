import SessionKeeper.Proofs.Json.Tokens

/-! # A text is read as the tree that it is a text of

Tokens are assembled to a tree exactly if they are the tokens of this tree
(`Tree.ofTokens?_eq_some_iff`), so a text is read as a tree exactly if it is one of the
texts of the tree (`Tree.read?_eq_some_iff`).  Nesting has no limit.

* The tokens of a tree complete it, in front of whatever follows: by induction on the tree,
  with one statement for trees, one for the items of an array and one for the members of an
  object.
* What was assembled has the tokens that were read: an assembly at any time stands for the
  tokens so far (`Assembly.Reads`), and each step adds one.

Core Lean 4 only; no Mathlib. -/

namespace SessionKeeper.Json

open Text (Glyph)

/-! ### The tokens of a tree complete it -/

namespace Assembly

theorem foldlM_cons {a : Assembly} {t : Token} {ts : List Token} :
    (t :: ts).foldlM step a = (a.step t).bind fun a' => ts.foldlM step a' := rfl

mutual

/-- The tokens of a tree complete it wherever a value has to begin. -/
theorem tokens_complete (t : Tree) (phase : Phase) (hphase : phase = .value ∨ phase = .valueOrEnd)
    (frames : List Frame) (rest : List Token) :
    (t.tokens ++ rest).foldlM step ⟨phase, frames⟩ = rest.foldlM step (place t frames) := by
  cases t with
  | null => rcases hphase with rfl | rfl <;> rfl
  | bool b => rcases hphase with rfl | rfl <;> rfl
  | number l => rcases hphase with rfl | rfl <;> rfl
  | string text => rcases hphase with rfl | rfl <;> rfl
  | array items =>
    have hopen : (Tree.array items).tokens ++ rest =
        .openBracket :: ((Tree.itemTokens items).tail ++ .closeBracket :: rest) := by
      simp [Tree.tokens]
    have hfirst : step ⟨phase, frames⟩ .openBracket = some ⟨.valueOrEnd, .array [] :: frames⟩ := by
      rcases hphase with rfl | rfl <;> rfl
    rw [hopen, foldlM_cons, hfirst, Option.bind_some]
    cases items with
    | nil => rfl
    | cons t ts =>
      show (((t.tokens ++ Tree.itemTokens ts) ++ .closeBracket :: rest)).foldlM step _ = _
      rw [List.append_assoc, tokens_complete t .valueOrEnd (Or.inr rfl)]
      show (Tree.itemTokens ts ++ .closeBracket :: rest).foldlM step
        ⟨.separator, .array [t] :: frames⟩ = _
      rw [items_complete ts [t] frames]
      show rest.foldlM step (place (.array (ts.reverse ++ [t]).reverse) frames) = _
      rw [List.reverse_append, List.reverse_reverse]
      rfl
  | object members =>
    have hopen : (Tree.object members).tokens ++ rest =
        .openBrace :: ((Tree.memberTokens members).tail ++ .closeBrace :: rest) := by
      simp [Tree.tokens]
    have hfirst : step ⟨phase, frames⟩ .openBrace =
        some ⟨.keyOrEnd, .object [] none :: frames⟩ := by
      rcases hphase with rfl | rfl <;> rfl
    rw [hopen, foldlM_cons, hfirst, Option.bind_some]
    cases members with
    | nil => rfl
    | cons m ms =>
      obtain ⟨key, t⟩ := m
      show (((t.tokens ++ Tree.memberTokens ms) ++ .closeBrace :: rest)).foldlM step
        ⟨.value, .object [] key :: frames⟩ = _
      rw [List.append_assoc, tokens_complete t .value (Or.inl rfl)]
      show (Tree.memberTokens ms ++ .closeBrace :: rest).foldlM step
        ⟨.separator, .object [(key, t)] key :: frames⟩ = _
      obtain ⟨last, hlast⟩ := members_complete ms [(key, t)] key frames (.closeBrace :: rest)
      rw [hlast]
      show rest.foldlM step (place (.object (ms.reverse ++ [(key, t)]).reverse) frames) = _
      rw [List.reverse_append, List.reverse_reverse]
      rfl

/-- The tokens of more items complete them; newer ones stand in front. -/
theorem items_complete (ts items : List Tree) (frames : List Frame) (rest : List Token) :
    (Tree.itemTokens ts ++ rest).foldlM step ⟨.separator, .array items :: frames⟩ =
      rest.foldlM step ⟨.separator, .array (ts.reverse ++ items) :: frames⟩ := by
  cases ts with
  | nil => rfl
  | cons t ts =>
    show ((t.tokens ++ Tree.itemTokens ts) ++ rest).foldlM step
      ⟨.value, .array items :: frames⟩ = _
    rw [List.append_assoc, tokens_complete t .value (Or.inl rfl)]
    show (Tree.itemTokens ts ++ rest).foldlM step
      ⟨.separator, .array (t :: items) :: frames⟩ = _
    rw [items_complete ts (t :: items) frames, List.reverse_cons, List.append_assoc,
      List.singleton_append]

/-- The tokens of more members complete them; newer ones stand in front. -/
theorem members_complete (ms members : List (Option String × Tree)) (key : Option String)
    (frames : List Frame) (rest : List Token) :
    ∃ last, (Tree.memberTokens ms ++ rest).foldlM step
        ⟨.separator, .object members key :: frames⟩ =
      rest.foldlM step ⟨.separator, .object (ms.reverse ++ members) last :: frames⟩ := by
  match ms with
  | [] => exact ⟨key, rfl⟩
  | (key', t) :: ms =>
    obtain ⟨last, hlast⟩ := members_complete ms ((key', t) :: members) key' frames rest
    refine ⟨last, ?_⟩
    show ((t.tokens ++ Tree.memberTokens ms) ++ rest).foldlM step
      ⟨.value, .object members key' :: frames⟩ = _
    rw [List.append_assoc, tokens_complete t .value (Or.inl rfl)]
    show (Tree.memberTokens ms ++ rest).foldlM step
      ⟨.separator, .object ((key', t) :: members) key' :: frames⟩ = _
    rw [hlast, List.reverse_cons, List.append_assoc, List.singleton_append]

end

end Assembly

/-- **The tokens of a tree are assembled to it.** -/
theorem Tree.ofTokens?_tokens (t : Tree) : Tree.ofTokens? t.tokens = some t := by
  have hfold := Assembly.tokens_complete t .value (Or.inl rfl) [] []
  rw [List.append_nil] at hfold
  rw [Tree.ofTokens?, hfold]
  rfl

/-! ### What was assembled has the tokens that were read -/

theorem Tree.itemTokens_append (ts ts' : List Tree) :
    itemTokens (ts ++ ts') = itemTokens ts ++ itemTokens ts' := by
  induction ts with
  | nil => rfl
  | cons t ts ih =>
    show Token.comma :: (t.tokens ++ itemTokens (ts ++ ts')) = _
    rw [ih, ← List.append_assoc]
    rfl

theorem Tree.memberTokens_append (ms ms' : List (Option String × Tree)) :
    memberTokens (ms ++ ms') = memberTokens ms ++ memberTokens ms' := by
  induction ms with
  | nil => rfl
  | cons m ms ih =>
    obtain ⟨key, t⟩ := m
    show Token.comma :: .string key :: .colon :: (t.tokens ++ memberTokens (ms ++ ms')) = _
    rw [ih, ← List.append_assoc]
    rfl

/-- The tokens from the bracket of an open container up to its next value. -/
def Frame.tokens : Frame → List Token
  | .array items => .openBracket :: (Tree.itemTokens items.reverse ++ [Token.comma]).tail
  | .object members key =>
    .openBrace ::
      (Tree.memberTokens members.reverse ++ [Token.comma, Token.string key, Token.colon]).tail

namespace Assembly

/-- The tokens up to the next value of the innermost open container. -/
def opened : List Frame → List Token
  | [] => []
  | frame :: outer => opened outer ++ frame.tokens

/-- The tokens that an assembly has read. -/
inductive Reads : Assembly → List Token → Prop where
  | value (frames : List Frame) : Reads ⟨.value, frames⟩ (opened frames)
  | valueOrEnd (outer : List Frame) :
      Reads ⟨.valueOrEnd, .array [] :: outer⟩ (opened outer ++ [.openBracket])
  | items {items : List Tree} (outer : List Frame) (some_item : items ≠ []) :
      Reads ⟨.separator, .array items :: outer⟩
        (opened outer ++ .openBracket :: (Tree.itemTokens items.reverse).tail)
  | keyOrEnd (key : Option String) (outer : List Frame) :
      Reads ⟨.keyOrEnd, .object [] key :: outer⟩ (opened outer ++ [.openBrace])
  | key {members : List (Option String × Tree)} (key : Option String) (outer : List Frame)
      (some_member : members ≠ []) :
      Reads ⟨.key, .object members key :: outer⟩
        (opened outer ++ .openBrace :: ((Tree.memberTokens members.reverse).tail ++ [.comma]))
  | colon (members : List (Option String × Tree)) (key : Option String) (outer : List Frame) :
      Reads ⟨.colon, .object members key :: outer⟩
        (opened outer ++ .openBrace ::
          (Tree.memberTokens members.reverse ++ [Token.comma, Token.string key]).tail)
  | members {members : List (Option String × Tree)} (key : Option String) (outer : List Frame)
      (some_member : members ≠ []) :
      Reads ⟨.separator, .object members key :: outer⟩
        (opened outer ++ .openBrace :: (Tree.memberTokens members.reverse).tail)
  | finished (t : Tree) : Reads ⟨.finished t, []⟩ t.tokens

theorem itemTokens_ne_nil {items : List Tree} (h : items ≠ []) :
    Tree.itemTokens items.reverse ≠ [] := by
  cases hitems : items.reverse with
  | nil => exact absurd (List.reverse_eq_nil_iff.1 hitems) h
  | cons t ts => exact List.cons_ne_nil _ _

theorem memberTokens_ne_nil {members : List (Option String × Tree)} (h : members ≠ []) :
    Tree.memberTokens members.reverse ≠ [] := by
  cases hmembers : members.reverse with
  | nil => exact absurd (List.reverse_eq_nil_iff.1 hmembers) h
  | cons m ms => exact List.cons_ne_nil _ _

theorem tail_itemTokens_concat (items : List Tree) (t : Tree) :
    (Tree.itemTokens (t :: items).reverse).tail =
      (Tree.itemTokens items.reverse ++ [Token.comma]).tail ++ t.tokens := by
  have hlast : Tree.itemTokens [t] = [Token.comma] ++ t.tokens := by simp [Tree.itemTokens]
  rw [List.reverse_cons, Tree.itemTokens_append, hlast, ← List.append_assoc,
    List.tail_append_of_ne_nil (List.append_ne_nil_of_right_ne_nil _ (List.cons_ne_nil _ _))]

theorem tail_memberTokens_concat (members : List (Option String × Tree)) (key : Option String)
    (t : Tree) :
    (Tree.memberTokens ((key, t) :: members).reverse).tail =
      (Tree.memberTokens members.reverse ++ [Token.comma, Token.string key, Token.colon]).tail ++
        t.tokens := by
  have hlast : Tree.memberTokens [(key, t)] =
      [Token.comma, Token.string key, Token.colon] ++ t.tokens := by
    simp [Tree.memberTokens]
  rw [List.reverse_cons, Tree.memberTokens_append, hlast, ← List.append_assoc,
    List.tail_append_of_ne_nil (List.append_ne_nil_of_right_ne_nil _ (List.cons_ne_nil _ _))]

/-- A complete value is behind what its container has read. -/
theorem Reads.place (t : Tree) (frames : List Frame) :
    Reads (Assembly.place t frames) (opened frames ++ t.tokens) := by
  cases frames with
  | nil => exact .finished t
  | cons frame outer =>
    cases frame with
    | array items =>
      have h : Reads ⟨.separator, .array (t :: items) :: outer⟩ _ :=
        .items outer (List.cons_ne_nil t items)
      rw [tail_itemTokens_concat] at h
      rw [opened, List.append_assoc]
      exact h
    | object members key =>
      have h : Reads ⟨.separator, .object ((key, t) :: members) key :: outer⟩ _ :=
        .members key outer (List.cons_ne_nil (key, t) members)
      rw [tail_memberTokens_concat] at h
      rw [opened, List.append_assoc]
      exact h

theorem Reads.openValue {frames : List Frame} {t : Token} {a : Assembly}
    (h : Assembly.openValue frames t = some a) : Reads a (opened frames ++ [t]) := by
  unfold Assembly.openValue at h
  split at h
  · cases h
    exact Reads.place .null frames
  · cases h
    exact Reads.place (.bool _) frames
  · cases h
    exact Reads.place (.number _) frames
  · cases h
    exact Reads.place (.string _) frames
  · cases h
    exact .valueOrEnd frames
  · cases h
    exact .keyOrEnd none frames
  · cases h

/-- One more token is read. -/
theorem Reads.step {a a' : Assembly} {seen : List Token} {t : Token} (h : Reads a seen)
    (hstep : a.step t = some a') : Reads a' (seen ++ [t]) := by
  cases h with
  | value frames => exact Reads.openValue hstep
  | valueOrEnd outer =>
    by_cases hclose : t = .closeBracket
    · -- an array without items
      subst hclose
      cases hstep
      rw [List.append_assoc]
      exact Reads.place (.array []) outer
    · have hopen : Assembly.openValue (.array [] :: outer) t = some a' := by
        rw [← hstep]
        cases t <;> first | rfl | exact absurd rfl hclose
      exact Reads.openValue hopen
  | @items items outer hne =>
    by_cases hcomma : t = .comma
    · -- the comma belongs to the item that follows
      subst hcomma
      cases hstep
      have hvalue := Reads.value (.array items :: outer)
      rw [opened, Frame.tokens, List.tail_append_of_ne_nil (itemTokens_ne_nil hne),
        ← List.cons_append, ← List.append_assoc] at hvalue
      exact hvalue
    · have hclose : Assembly.close (.array items :: outer) t = some a' := by
        rw [← hstep]
        cases t <;> first | rfl | exact absurd rfl hcomma
      cases t <;> cases hclose
      rw [List.append_assoc]
      exact Reads.place (.array items.reverse) outer
  | keyOrEnd key outer =>
    by_cases hclose : t = .closeBrace
    · -- an object without members
      subst hclose
      cases hstep
      rw [List.append_assoc]
      exact Reads.place (.object []) outer
    · have hopen : Assembly.openMember (.object [] key :: outer) t = some a' := by
        rw [← hstep]
        cases t <;> first | rfl | exact absurd rfl hclose
      cases t <;> cases hopen
      rw [List.append_assoc]
      exact .colon [] _ outer
  | @key members key outer hne =>
    have hopen : Assembly.openMember (.object members key :: outer) t = some a' := hstep
    cases t <;> cases hopen
    rename_i name
    have hcolon := Reads.colon members name outer
    rw [List.tail_append_of_ne_nil (memberTokens_ne_nil hne)] at hcolon
    rw [List.append_assoc, List.cons_append, List.append_assoc]
    exact hcolon
  | colon members key outer =>
    cases t <;> cases hstep
    have hvalue := Reads.value (.object members key :: outer)
    have hsplit : [Token.comma, Token.string key, Token.colon] =
        [Token.comma, Token.string key] ++ [Token.colon] := rfl
    rw [opened, Frame.tokens, hsplit, ← List.append_assoc,
      List.tail_append_of_ne_nil (List.append_ne_nil_of_right_ne_nil _ (List.cons_ne_nil _ _)),
      ← List.cons_append, ← List.append_assoc] at hvalue
    exact hvalue
  | @members members key outer hne =>
    by_cases hcomma : t = .comma
    · -- the comma belongs to the member that follows
      subst hcomma
      cases hstep
      rw [List.append_assoc, List.cons_append]
      exact .key key outer hne
    · have hclose : Assembly.close (.object members key :: outer) t = some a' := by
        rw [← hstep]
        cases t <;> first | rfl | exact absurd rfl hcomma
      cases t <;> cases hclose
      rw [List.append_assoc]
      exact Reads.place (.object members.reverse) outer
  | finished u => cases hstep

theorem Reads.run {a a' : Assembly} {seen ts : List Token} (h : Reads a seen)
    (hrun : ts.foldlM Assembly.step a = some a') : Reads a' (seen ++ ts) := by
  induction ts generalizing a seen with
  | nil =>
    cases hrun
    rw [List.append_nil]
    exact h
  | cons t ts ih =>
    rw [foldlM_cons] at hrun
    obtain ⟨next, hstep, hrun⟩ := Option.bind_eq_some_iff.1 hrun
    have hrest := ih (h.step hstep) hrun
    rw [List.append_assoc, List.singleton_append] at hrest
    exact hrest

end Assembly

/-- **Tokens are assembled to a tree exactly if they are the tokens of the tree.** -/
theorem Tree.ofTokens?_eq_some_iff {ts : List Token} {t : Tree} :
    Tree.ofTokens? ts = some t ↔ ts = t.tokens := by
  constructor
  · intro h
    unfold Tree.ofTokens? at h
    split at h
    · rename_i u frames hrun
      cases h
      have hreads := Assembly.Reads.run (.value []) hrun
      rw [Assembly.opened, List.nil_append] at hreads
      cases hreads
      rfl
    · cases h
  · rintro rfl
    exact Tree.ofTokens?_tokens t

/-- **A text is read as a tree exactly if it is one of the texts of the tree.** -/
theorem Tree.read?_eq_some_iff {gs : List Glyph} {t : Tree} :
    Tree.read? gs = some t ↔ t.IsText gs := by
  rw [Tree.read?, Option.bind_eq_some_iff]
  constructor
  · rintro ⟨ts, hts, htree⟩
    rw [Tree.ofTokens?_eq_some_iff] at htree
    subst htree
    exact Token.readAll?_eq_some_iff.1 hts
  · intro h
    exact ⟨t.tokens, Token.readAll?_eq_some_iff.2 h, Tree.ofTokens?_tokens t⟩

/-! ### Objects of texts -/

/-- One more token in front that is no number. -/
theorem Layout.behind {t : Token} {ts : List Token} {text gs : List Glyph} (h : Layout ts gs)
    (spelled : t.Spelled text) (no_number : ∀ l, t ≠ .number l) :
    Layout (t :: ts) (text ++ gs) :=
  .token spelled (fun l hl => absurd hl (no_number l)) h

/-- What is written behind the opening brace. -/
theorem layout_members (ms : List (String × String)) :
    Layout (membersTokens ms ++ [.closeBrace])
      (sound (commaSeparated (ms.map writeMember)) ++ [some '\x7d']) := by
  have hread := Token.readFrom?_members [] ms [some '\x7d']
  rw [Token.readFrom?_token _ rfl rfl, Token.readFrom?, List.append_nil, List.reverse_cons,
    List.reverse_reverse] at hread
  obtain ⟨more, rfl, hlayout⟩ := Token.readFrom?_spec hread
  exact hlayout

/-- The tokens of members that are texts. -/
theorem Tree.tail_memberTokens_texts (ms : List (String × String)) :
    (Tree.memberTokens (ms.map treeMember)).tail = membersTokens ms := by
  induction ms with
  | nil => rfl
  | cons m ms ih =>
    cases ms with
    | nil => rfl
    | cons m' ms =>
      have hmore : Tree.memberTokens ((m' :: ms).map treeMember) =
          .comma :: membersTokens (m' :: ms) := by
        rw [← ih]
        rfl
      show Token.string (some m.1) :: .colon :: .string (some m.2) ::
        Tree.memberTokens ((m' :: ms).map treeMember) = _
      rw [hmore]
      rfl

/-- The text that is written for an object of texts is one of its texts. -/
theorem Tree.isText_writeObject (ms : List (String × String)) :
    (Tree.object (ms.map treeMember)).IsText (sound (writeObject ms)) := by
  rw [Tree.IsText, ← Token.readAll?_eq_some_iff, Token.readAll?_writeObject, Tree.tokens,
    Tree.tail_memberTokens_texts]

/-- **An object of texts is read as the tree of its members.** -/
theorem Tree.read?_writeObject (ms : List (String × String)) :
    Tree.read? (sound (writeObject ms)) = some (.object (ms.map treeMember)) :=
  Tree.read?_eq_some_iff.2 (Tree.isText_writeObject ms)

/-! ### Behind an object -/

/-- No tree has the tokens of an object and then some more. -/
theorem Tree.ofTokens?_object_append {members : List (Option String × Tree)} {more : List Token}
    (h : more ≠ []) : Tree.ofTokens? ((Tree.object members).tokens ++ more) = none := by
  have hfold := Assembly.tokens_complete (.object members) .value (Or.inl rfl) [] more
  obtain ⟨t, ts, rfl⟩ := List.exists_cons_of_ne_nil h
  rw [Tree.ofTokens?, hfold]
  rfl

/-- **Nothing but blanks may stand behind an object.** -/
theorem Tree.read?_object_append {members : List (Option String × Tree)} {gs extra : List Glyph}
    (h : (Tree.object members).IsText gs) (hextra : ∃ g ∈ extra, g.any isBlank = false) :
    Tree.read? (gs ++ extra) = none := by
  -- the last token is a brace, so what follows does not change how the object is read
  have hlast : ∀ l, (Tree.object members).tokens.getLast? ≠ some (.number l) := by
    intro l
    rw [Tree.tokens, ← List.cons_append, List.getLast?_concat]
    simp
  have hread : Token.readAll? (gs ++ extra) =
      Token.readFrom? ((Tree.object members).tokens.reverse ++ []) extra :=
    Layout.readFrom?_append h (Or.inr hlast) []
  cases hall : Token.readAll? (gs ++ extra) with
  | none => rw [Tree.read?, hall, Option.bind_none]
  | some ts =>
    rw [hall] at hread
    obtain ⟨more, hts, hmore⟩ := Token.readFrom?_spec hread.symm
    rw [List.append_nil, List.reverse_reverse] at hts
    -- something that is no blank makes one more token, or none at all
    have hne : more ≠ [] := by
      rintro rfl
      obtain ⟨g, hg, hblank⟩ := hextra
      rw [hmore.blanks g hg] at hblank
      cases hblank
    rw [Tree.read?, hall, Option.bind_some, hts, Tree.ofTokens?_object_append hne]

end SessionKeeper.Json
