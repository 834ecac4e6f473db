import Mathlib.Data.List.Basic
import SessionKeeper.Credential.StoreFile
import SessionKeeper.Proofs.Credential.Files
import SessionKeeper.Proofs.Credential.Store

/-! # A store in a file is like one in memory

Whatever is done with a store in a file, it answers as a store in memory with the same
record does, although that one is never closed (`StoreFile.agrees_with_memory`).  Both
answers are what a plain slot would give that holds credentials or nothing
(`Store.Operation.slot`).

The record is one row of the table.  Whoever uses the store neither reads nor changes the
rows of other keys.

Mathlib decides whether two results are equal. -/

namespace SessionKeeper

open Database (Cell Relation sessionKey)
open SessionKeeper.Path (Location)

namespace Store

/-! ### A slot for credentials -/

/-- What a slot holds once something was done with it: the credentials that were saved
last, unless they have no access token; those of the text that was put there last; or
nothing once it was cleared. -/
def Operation.slot (held : Option Credentials) (o : Operation) : Option Credentials :=
  match o with
  | .save c => if c.accessToken = "" then none else some c
  | .put text => Credentials.ofKept? text
  | .clear => none
  | .load | .reopen => held

/-- What a slot answers.  Nothing fails. -/
def Operation.expected (held : Option Credentials) (o : Operation) : Answer :=
  match o with
  | .load => .loaded held
  | _ => .done

/-- What a slot holds after a number of things, if a record was there at first. -/
def held (record : Option String) (past : List Operation) : Option Credentials :=
  past.foldl Operation.slot (record.bind Credentials.ofKept?)

/-! ### The record -/

/-- The text of the record once something was done. -/
def Operation.text (record : Option String) (o : Operation) : Option String :=
  match o with
  | .save c => some c.record
  | .put text => some text
  | .clear => none
  | .load | .reopen => record

/-- **Step.**  The text stands for what the slot holds. -/
theorem ofKept?_text (record : Option String) (o : Operation) :
    (o.text record).bind Credentials.ofKept? = o.slot (record.bind Credentials.ofKept?) := by
  cases o with
  | save c => exact Credentials.ofKept?_record_eq c
  | load | clear | put | reopen => rfl

/-- **Run.**  So it does after a number of things. -/
theorem ofKept?_texts (record : Option String) (past : List Operation) :
    (past.foldl Operation.text record).bind Credentials.ofKept? = held record past := by
  induction past generalizing record with
  | nil => rfl
  | cons o past ih =>
    rw [List.foldl_cons, ih, held, ofKept?_text]
    rfl

/-! ### A store in memory -/

/-- **Step.**  A store in memory answers like the slot, and has the text. -/
theorem operate_memory (record : Option String) (o : Operation) :
    (⟨.memory record, false⟩ : Store).operate o =
      (o.expected (record.bind Credentials.ofKept?), ⟨.memory (o.text record), false⟩) := by
  cases o <;> rfl

theorem after_memory (record : Option String) (past : List Operation) :
    (⟨.memory record, false⟩ : Store).after past =
      ⟨.memory (past.foldl Operation.text record), false⟩ := by
  induction past generalizing record with
  | nil => rfl
  | cons o past ih =>
    rw [after, List.foldl_cons, operate_memory]
    exact ih (o.text record)

/-! ### A table -/

theorem without_without (rows : List (String × Cell)) :
    Relation.without sessionKey (Relation.without sessionKey rows) =
      Relation.without sessionKey rows := by
  simp [Relation.without]

/-- A text that is put into the row of the session stands there, and the other rows stay. -/
theorem insert_table (text : String) (rows : List (String × Cell)) :
    let rows' := (sessionKey, .text text) :: Relation.without sessionKey rows
    (Relation.table rows').text? sessionKey = some text ∧
      Relation.without sessionKey rows' = Relation.without sessionKey rows := by
  intro rows'
  constructor
  · simp only [rows', Relation.text?, List.lookup_cons_self]
  · simp [rows', Relation.without]

/-- **Step.**  A table answers like the slot.  The row of the session has the text then, and
the other rows stay. -/
theorem operate_table (rows : List (String × Cell)) (o : Operation) :
    ∃ rows', (⟨.database (.table rows), false⟩ : Store).operate o =
        (o.expected (((Relation.table rows).text? sessionKey).bind Credentials.ofKept?),
          ⟨.database (.table rows'), false⟩) ∧
      (Relation.table rows').text? sessionKey = o.text ((Relation.table rows).text? sessionKey) ∧
      Relation.without sessionKey rows' = Relation.without sessionKey rows := by
  cases o with
  | load => exact ⟨rows, rfl, rfl, rfl⟩
  | reopen => exact ⟨rows, rfl, rfl, rfl⟩
  | save c => exact ⟨_, rfl, insert_table c.record rows⟩
  | put text => exact ⟨_, rfl, insert_table text rows⟩
  | clear =>
    refine ⟨Relation.without sessionKey rows, rfl, ?_, without_without rows⟩
    simp only [Relation.text?, lookup_without, Operation.text]

end Store

namespace StoreFile

open Store (Operation held)

/-! ### A store in a file -/

/-- A store whose file, at a location, has the table that is open. -/
def located (files : Files) (start : Location) (name : String) (location : Location)
    (rows : List (String × Cell)) : StoreFile :=
  ⟨files.write location (.table rows), start, name, ⟨.table rows, some location⟩⟩

variable {files : Files} {start location : Location} {name : String}

/-- What a store does while it is open comes to the file. -/
theorem operate_of_open {o : Operation} (h : o ≠ .reopen) (f : StoreFile) :
    f.operate o = ((f.store.operate o).1, f.keep (f.store.operate o).2) := by
  cases o with
  | reopen => exact absurd rfl h
  | load | save | clear | put => rfl

theorem keep_located (rows rows' : List (String × Cell)) :
    (located files start name location rows).keep ⟨.database (.table rows'), false⟩ =
      located files start name location rows' := by
  simp only [located, keep, Files.keep, Files.write_write]

/-- **Step.**  A store in a file answers like the slot, also when it is opened again. -/
theorem operate_located (hleads : files.Leads start name location)
    (rows : List (String × Cell)) (o : Operation) :
    ∃ rows', (located files start name location rows).operate o =
        (o.expected (((Relation.table rows).text? sessionKey).bind Credentials.ofKept?),
          located files start name location rows') ∧
      (Relation.table rows').text? sessionKey = o.text ((Relation.table rows).text? sessionKey) ∧
      Relation.without sessionKey rows' = Relation.without sessionKey rows := by
  by_cases hreopen : o = .reopen
  · -- the same table is found
    subst hreopen
    have hagain := hleads rows
    refine ⟨rows, ?_, rfl, rfl⟩
    simp only [operate, located, hagain]
    rfl
  · obtain ⟨rows', hoperate, htext, hothers⟩ := Store.operate_table rows o
    refine ⟨rows', ?_, htext, hothers⟩
    have hstore : (located files start name location rows).store =
        ⟨.database (.table rows), false⟩ := rfl
    rw [operate_of_open hreopen, hstore, hoperate, keep_located]

/-- **Run.**  After any number of things the file has a table with the text in the row of
the session, and the same rows besides. -/
theorem after_located (hleads : files.Leads start name location)
    (rows : List (String × Cell)) (past : List Operation) :
    ∃ rows', (located files start name location rows).after past =
        located files start name location rows' ∧
      (Relation.table rows').text? sessionKey =
        past.foldl Operation.text ((Relation.table rows).text? sessionKey) ∧
      Relation.without sessionKey rows' = Relation.without sessionKey rows := by
  induction past generalizing rows with
  | nil => exact ⟨rows, rfl, rfl, rfl⟩
  | cons o past ih =>
    obtain ⟨next, hoperate, htext, hothers⟩ := operate_located hleads rows o
    obtain ⟨rows', hafter, htext', hothers'⟩ := ih next
    refine ⟨rows', ?_, ?_, hothers'.trans hothers⟩
    · rw [after, List.foldl_cons, hoperate]
      exact hafter
    · rw [htext', htext, List.foldl_cons]

/-! ### The main theorem -/

/-- **A store in a file cannot be told from one in memory.**  Take a database in a file that
was opened and has its table, whatever the rows, and a store in memory that has the text of
the record, if there is one.  With both of them the same is done, any number of times:
loading, saving, clearing, putting any text in the place of the record, and, with the file
only, closing and opening again.

Whatever is done then is answered by both as a slot for credentials would: nothing fails,
and what is loaded are the credentials that were saved last unless their access token is
empty, or what the text stands for that was put last, or nothing after clearing.  The file
has the rows of all other keys as before. -/
theorem agrees_with_memory {files files' : Files} {start location : Location} {name : String}
    {opened : Files.Opened} {rows : List (String × Cell)}
    (hopened : files.openDatabase start name = (.ok opened, files'))
    (hlocation : opened.location = some location) (htable : opened.relation = .table rows)
    (past : List Operation) :
    let record := (Relation.table rows).text? sessionKey
    let f := (⟨files', start, name, opened⟩ : StoreFile).after past
    let s := (⟨.memory record, false⟩ : Store).after past
    (∀ o, (f.operate o).1 = o.expected (held record past) ∧
      (s.operate o).1 = o.expected (held record past)) ∧
    ∃ rows', f.files.databases.lookup location = some (.table rows') ∧
      Relation.without sessionKey rows' = Relation.without sessionKey rows := by
  intro record f s
  obtain ⟨⟨before, hwritten⟩, hleads⟩ := Files.openDatabase_again hopened hlocation
  -- the file has the table from the beginning
  have hbegin : (⟨files', start, name, opened⟩ : StoreFile) =
      located files' start name location rows := by
    obtain ⟨relation, location'⟩ := opened
    cases hlocation
    cases htable
    rw [located, hwritten, Files.write_write]
  obtain ⟨rows', hafter, htext, hothers⟩ := after_located hleads rows past
  have hf : f = located files' start name location rows' := by
    rw [← hafter, ← hbegin]
  have hheld : ((Relation.table rows').text? sessionKey).bind Credentials.ofKept? =
      held record past := by
    rw [htext, Store.ofKept?_texts]
  refine ⟨?_, rows', ?_, hothers⟩
  · intro o
    obtain ⟨next, hoperate, -⟩ := operate_located hleads rows' o
    constructor
    · rw [hf, hoperate, hheld]
    · have hs : s = ⟨.memory (past.foldl Operation.text record), false⟩ :=
        Store.after_memory record past
      rw [hs, Store.operate_memory, Store.ofKept?_texts]
  · rw [hf]
    exact Files.lookup_write files' location _

/-- A database with a record that cannot be read, and a row of another key. -/
def mixedRows : List (String × Cell) :=
  [("theme", .text "dark"), (sessionKey, .text "\x7b")]

/-- The location `/d/s`. -/
def mixedLocation : Location :=
  [[100], [115]]

/-- A tree of files with this database. -/
def mixedFiles : Files :=
  { directories := [[[100]]], databases := [(mixedLocation, .table mixedRows)] }

/-- Loading, saving, clearing twice, and opening the file again in between. -/
def mixedPast : List Operation :=
  [.load, .save ⟨"one", "Bearer", none, none⟩, .reopen, .clear, .clear, .reopen,
    .save ⟨"two", "Bearer", none, none⟩, .reopen]

/-- The credentials that were saved last are loaded, and the other row is still there. -/
theorem agrees_with_memory_mixed :
    let f := (⟨mixedFiles, [], "/d/./s", ⟨.table mixedRows, some mixedLocation⟩⟩ : StoreFile).after
      mixedPast
    let s := (⟨.memory (some "\x7b"), false⟩ : Store).after mixedPast
    mixedFiles.openDatabase [] "/d/./s" =
      (.ok ⟨.table mixedRows, some mixedLocation⟩, mixedFiles) ∧
    (f.operate .load).1 = .loaded (some ⟨"two", "Bearer", none, none⟩) ∧
    (s.operate .load).1 = .loaded (some ⟨"two", "Bearer", none, none⟩) ∧
    ∃ rows', f.files.databases.lookup mixedLocation = some (.table rows') ∧
      Relation.without sessionKey rows' = [("theme", .text "dark")] := by
  intro f s
  have hopened : mixedFiles.openDatabase [] "/d/./s" =
      (.ok ⟨.table mixedRows, some mixedLocation⟩, mixedFiles) := by decide +kernel
  obtain ⟨hanswers, rows', hlookup, hothers⟩ := agrees_with_memory hopened rfl rfl mixedPast
  have hload := hanswers .load
  have hheld : held (some "\x7b") mixedPast = some ⟨"two", "Bearer", none, none⟩ := rfl
  have hfirst : Relation.without sessionKey mixedRows = [("theme", .text "dark")] := by
    decide +kernel
  refine ⟨hopened, hload.1.trans ?_, hload.2.trans ?_, rows', hlookup, hothers.trans hfirst⟩
  · exact congrArg Store.Answer.loaded hheld
  · exact congrArg Store.Answer.loaded hheld

end StoreFile

end SessionKeeper
