import SessionKeeper.Json.Token

/-! # JSON syntax trees

The tokens of a JSON text form a tree.  The tree says how the text is built
and nothing about what it means: members keep their order and may repeat, and
numbers and strings are kept as they were read.

The tree is assembled token by token with the open containers on a stack, so
nesting costs no more than any other token and has no limit here.

Core Lean 4 only; no Mathlib. -/

namespace SessionKeeper.Json

/-- The structure of a JSON text. -/
inductive Tree where
  | null
  | bool (b : Bool)
  | number (literal : Literal)
  | string (text : Option String)
  | array (items : List Tree)
  | object (members : List (Option String × Tree))

/-- A container that is being read; its parts are newest first. -/
inductive Frame where
  | array (items : List Tree)
  /-- `key` belongs to the member being read. -/
  | object (members : List (Option String × Tree)) (key : Option String)

/-- What the next token has to be. -/
inductive Phase where
  | value
  /-- Just behind an opening bracket. -/
  | valueOrEnd
  | key
  /-- Just behind an opening brace. -/
  | keyOrEnd
  | colon
  /-- Behind a value in a container. -/
  | separator
  /-- The outermost value is complete. -/
  | finished (tree : Tree)

/-- A text read up to some token. -/
structure Assembly where
  phase : Phase := .value
  frames : List Frame := []

/-- A value is complete: it becomes a part of the innermost open container. -/
def Assembly.place (t : Tree) (frames : List Frame) : Assembly :=
  match frames with
  | [] => ⟨.finished t, []⟩
  | .array items :: outer => ⟨.separator, .array (t :: items) :: outer⟩
  | .object members key :: outer => ⟨.separator, .object ((key, t) :: members) key :: outer⟩

/-- A token where a value has to begin. -/
def Assembly.openValue (frames : List Frame) (t : Token) : Option Assembly :=
  match t with
  | .null => some (place .null frames)
  | .bool b => some (place (.bool b) frames)
  | .number l => some (place (.number l) frames)
  | .string s => some (place (.string s) frames)
  | .openBracket => some ⟨.valueOrEnd, .array [] :: frames⟩
  | .openBrace => some ⟨.keyOrEnd, .object [] none :: frames⟩
  | _ => none

/-- Close the innermost container. -/
def Assembly.close (frames : List Frame) (t : Token) : Option Assembly :=
  match frames, t with
  | .array items :: outer, .closeBracket => some (place (.array items.reverse) outer)
  | .object members _ :: outer, .closeBrace => some (place (.object members.reverse) outer)
  | _, _ => none

/-- A token where the key of a member has to stand. -/
def Assembly.openMember (frames : List Frame) (t : Token) : Option Assembly :=
  match frames, t with
  | .object members _ :: outer, .string key => some ⟨.colon, .object members key :: outer⟩
  | _, _ => none

/-- Read one token. -/
def Assembly.step (a : Assembly) (t : Token) : Option Assembly :=
  match a.phase, t with
  | .value, t => openValue a.frames t
  | .valueOrEnd, .closeBracket => close a.frames t
  | .valueOrEnd, t => openValue a.frames t
  | .key, t => openMember a.frames t
  | .keyOrEnd, .closeBrace => close a.frames t
  | .keyOrEnd, t => openMember a.frames t
  | .colon, .colon => some ⟨.value, a.frames⟩
  | .separator, .comma =>
    match a.frames with
    | .array _ :: _ => some ⟨.value, a.frames⟩
    | .object _ _ :: _ => some ⟨.key, a.frames⟩
    | [] => none
  | .separator, t => close a.frames t
  | _, _ => none

/-- The tree of a whole list of tokens. -/
def Tree.ofTokens? (ts : List Token) : Option Tree :=
  match ts.foldlM Assembly.step {} with
  | some ⟨.finished t, _⟩ => some t
  | _ => none

/-- The tree of a whole text. -/
def Tree.read? (gs : List Text.Glyph) : Option Tree :=
  (Token.readAll? gs).bind Tree.ofTokens?

end SessionKeeper.Json
