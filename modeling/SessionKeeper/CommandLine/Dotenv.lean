import SessionKeeper.Text.Alphanumeric
import SessionKeeper.Text.Basic

/-! # The environment file

A file of lines `NAME=value` gives variables that the environment does not
have.  Values may be quoted: nothing has a meaning between single quotes, and
between double quotes backslashes and dollar signs keep theirs.  A quoted value
may go on over several lines.  A number sign behind a blank begins a comment.
`$NAME` and `$`-names in braces stand for variables known so far.

Reading stops at the first line that is not of this form; what stands before
it counts.  A value that the environment cannot hold ends the program.

Core Lean 4 only; no Mathlib. -/

namespace SessionKeeper.CommandLine.Dotenv

open Text (isAlphanumeric isBlank skipBlanks)

/-! ## Lines -/

/-- Where in a value a reader stands. -/
inductive Mode where
  | plain
  | blank
  | escaped
  | single
  | singleEscaped
  | double
  | doubleEscaped
  deriving DecidableEq, Repr

/-- The mode behind a character, or `none` where a comment begins. -/
def Mode.next (m : Mode) (c : Char) : Option Mode :=
  match m with
  | .blank =>
    if c = '#' then none
    else some (if c = '\\' then .escaped else if c = '"' then .double
      else if c = '\x27' then .single else .plain)
  | .plain =>
    some (if isBlank c ∧ c ≠ '\n' ∧ c ≠ '\r' then .blank
      else if c = '\\' then .escaped else if c = '"' then .double
      else if c = '\x27' then .single else .plain)
  | .escaped => some .plain
  | .double => some (if c = '\\' then .doubleEscaped else if c = '"' then .plain else .double)
  | .doubleEscaped => some .double
  | .single => some (if c = '\\' then .singleEscaped else if c = '\x27' then .plain else .single)
  | .singleEscaped => some .single

/-- The mode at the end of a text; or `none` if a comment begins, with what
stands before it. -/
def Mode.after (m : Mode) (seen : List Char) : List Char → Option Mode × List Char
  | [] => (some m, seen.reverse)
  | c :: rest =>
    match m.next c with
    | none => (none, seen.reverse)
    | some m => m.after (c :: seen) rest

/-- The lines of a text, each with its end. -/
def physicalLines (cs : List Char) : List (List Char) :=
  let (line, lines) := cs.foldr (fun c (line, lines) =>
    if c = '\n' then ([c], if line.isEmpty then lines else line :: lines) else (c :: line, lines))
    (([] : List Char), ([] : List (List Char)))
  if line.isEmpty then lines else line :: lines

/-- A line without its end. -/
def withoutEnd (line : List Char) : List Char :=
  match line.reverse with
  | '\n' :: '\r' :: rest => rest.reverse
  | '\n' :: rest => rest.reverse
  | _ => line

/-- The lines as far as they are complete.  A line with an open quote goes on
over the end of the line; `begun` is what it has so far. -/
def logicalLines (mode : Mode) (begun : List Char) : List (List Char) → List (Option (List Char))
  | [] => if mode = .plain then [] else [none]
  | line :: rest =>
    let whole := begun ++ line
    if (skipBlanks whole).head? = some '#' then some [] :: logicalLines .plain [] rest
    else
      match mode.after [] line with
      | (none, before) => some (begun ++ before) :: logicalLines .plain [] rest
      | (some .plain, _) => some (withoutEnd whole) :: logicalLines .plain [] rest
      | (some mode, _) => logicalLines mode whole rest

/-! ## Values -/

/-- Which name a dollar sign has begun. -/
inductive Substitution where
  | none
  | bare
  | braced
  deriving DecidableEq, Repr

/-- A value as far as it has been read. -/
structure Draft where
  output : List Char := []
  isSingle : Bool := false
  isDouble : Bool := false
  isEscaped : Bool := false
  /-- A blank was read, so only a comment may follow. -/
  isOver : Bool := false
  substitution : Substitution := .none
  name : List Char := []

/-- Variables known so far. -/
abbrev Known := List (String × String)

/-- Put a variable in place of its name. -/
def Draft.substitute (d : Draft) (known : Known) : Draft :=
  { d with
    output := d.output ++ ((known.lookup (String.ofList d.name)).getD "").toList
    name := [] }

/-- Read one character of a value; a comment reads nothing more. -/
def Draft.next (known : Known) (d : Draft) (c : Char) : Option Draft :=
  if d.isOver then if c = ' ' ∨ c = '\t' then some d else none
  else if d.isEscaped then
    let d := { d with isEscaped := false }
    if c ∈ ['\\', '\x27', '"', '$', ' '] then some { d with output := d.output ++ [c] }
    else if c = 'n' then some { d with output := d.output ++ ['\n'] }
    else none
  else if d.isSingle then
    some (if c = '\x27' then { d with isSingle := false } else { d with output := d.output ++ [c] })
  else
    match d.substitution with
    | .bare =>
      if isAlphanumeric c then some { d with name := d.name ++ [c] }
      else if c = '\x7b' ∧ d.name = [] then some { d with substitution := .braced }
      else
        let d := d.substitute known
        some (if c = '$' then d
          else { d with substitution := .none, output := d.output ++ [c] })
    | .braced =>
      some (if c = '\x7d' then { d.substitute known with substitution := .none }
        else { d with name := d.name ++ [c] })
    | .none =>
      some (if c = '$' then { d with substitution := .bare }
        else if c = '"' then { d with isDouble := !d.isDouble }
        else if c = '\\' then { d with isEscaped := true }
        else if d.isDouble then { d with output := d.output ++ [c] }
        else if c = '\x27' then { d with isSingle := true }
        else if c = ' ' ∨ c = '\t' then { d with isOver := true }
        else { d with output := d.output ++ [c] })

/-- Read a value up to its end or a comment. -/
def Draft.all (known : Known) (d : Draft) : List Char → Option Draft
  | [] => some d
  | c :: rest =>
    if d.isOver ∧ c = '#' then some d
    else (d.next known c).bind fun d => d.all known rest

/-- The value that a text writes. -/
def value? (known : Known) (cs : List Char) : Option String := do
  let d ← ({} : Draft).all known cs
  if d.isSingle ∨ d.isDouble ∨ d.substitution = .braced then none
  return String.ofList (d.substitute known).output

/-! ## Assignments -/

/-- The name in front of a text, and what follows it. -/
def name? (cs : List Char) : Option (String × List Char) :=
  match cs with
  | [] => none
  | c :: _ =>
    if c.isAlpha ∨ c = '_' then
      let isPart (c : Char) : Bool := c.isAlphanum || c == '_' || c == '.'
      some (String.ofList (cs.takeWhile isPart), cs.dropWhile isPart)
    else none

/-- A name, an equals sign, and what follows.  A word `export` may stand in
front of the name. -/
def assignment? (cs : List Char) : Option (String × List Char) := do
  let (name, rest) ← name? (skipBlanks cs)
  match skipBlanks rest with
  | '=' :: value => return (name, skipBlanks value)
  | rest =>
    if name ≠ "export" then none
    let (name, rest) ← name? rest
    match skipBlanks rest with
    | '=' :: value => return (name, skipBlanks value)
    | _ => none

/-- What a line says: nothing, or a variable and its value. -/
def line? (known : Known) (line : List Char) : Option (Option (String × String)) := do
  let cs := Text.trim line
  if cs = [] ∨ cs.head? = some '#' then return none
  let (name, rest) ← assignment? cs
  if rest = [] ∨ rest.head? = some '#' then return some (name, "")
  let value ← value? known rest
  return some (name, value)

/-! ## Files -/

/-- Whether the environment can hold a value: zeros end the values in it. -/
def isStorable (value : String) : Bool :=
  !value.toList.contains '\x00'

/-- The environment with the variables of some lines, or nothing if it cannot
hold one that it lacks.  `earlier` holds what the lines before gave, newest
first. -/
def load? (environment earlier : Known) : List (Option (List Char)) → Option Known
  | [] => some environment
  | none :: _ => some environment
  | some line :: rest =>
    match line? (environment ++ earlier) line with
    | none => some environment
    | some none => load? environment earlier rest
    | some (some (name, value)) =>
      let earlier' := (name, value) :: earlier
      if (environment.lookup name).isSome then load? environment earlier' rest
      else if isStorable value then load? (environment ++ [(name, value)]) earlier' rest
      else none

/-- The words of an environment file that may be names of variables. -/
def mentioned (text : String) : List String :=
  let isPart (c : Char) : Bool := c.isAlphanum || c == '_' || c == '.'
  let (word, words) := text.toList.foldr (fun c (word, words) =>
    if isPart c then (c :: word, words) else ([], word :: words))
    (([] : List Char), ([] : List (List Char)))
  (((word :: words).filter (· ≠ [])).map String.ofList).eraseDups

/-- The environment with the variables of an environment file, if it can hold
them. -/
def extend? (text : String) (environment : Known) : Option Known :=
  let cs := match text.toList with
    | '\uFEFF' :: rest => rest
    | cs => cs
  load? environment [] (logicalLines .plain [] (physicalLines cs))

end SessionKeeper.CommandLine.Dotenv
