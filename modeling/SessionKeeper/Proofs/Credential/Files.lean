import SessionKeeper.Credential.Files

/-! # Opening a database again

Whoever opens a database makes the directories on the path to it, and its file.  The next
time all of that is there already: the same name leads to the same file, nothing new is
made, and the table that stands there by then is what is opened
(`Files.openDatabase_again`).

Two facts carry this.  A way of names that leads somewhere still does so when there are
more directories (`Files.walk_mono`), and whether a file can stand at a location depends on
the directories alone (`Files.Hosts`).

Core Lean 4 only; no Mathlib. -/

namespace SessionKeeper

open Database (Access Locator OpenError Place Relation)
open SessionKeeper.Path (Location Name)

namespace Files

variable {f f' g : Files} {start location : Location} {names : List Name}

/-! ### Ways of names -/

/-- All directories of one tree are in another. -/
def Within (f g : Files) : Prop :=
  ∀ location, f.isDirectory location = true → g.isDirectory location = true

/-- The directory that names lead to, one after the other. -/
def walk (f : Files) (start : Location) (names : List Name) : Except Hindrance Location :=
  names.foldlM f.step start

theorem Within.of_eq (h : g.directories = f.directories) : f.Within g := by
  intro location hlocation
  unfold isDirectory at hlocation ⊢
  rwa [h]

theorem step_mono {name : Name} (hwithin : f.Within g) (h : f.step start name = .ok location) :
    g.step start name = .ok location := by
  unfold step at h ⊢
  by_cases hup : name = Path.upwards
  · rwa [if_pos hup] at h ⊢
  · rw [if_neg hup] at h ⊢
    by_cases hlong : Path.nameLimit < name.length
    · rw [if_pos hlong] at h
      cases h
    · rw [if_neg hlong] at h ⊢
      by_cases hdirectory : f.isDirectory (start ++ [name]) = true
      · rw [if_pos hdirectory] at h
        rwa [if_pos (hwithin _ hdirectory)]
      · -- nothing else is a way on
        rw [if_neg hdirectory] at h
        split at h <;> cases h

theorem bind_eq_ok_iff {ε α β : Type} {x : Except ε α} {k : α → Except ε β} {b : β} :
    (x >>= k) = .ok b ↔ ∃ a, x = .ok a ∧ k a = .ok b := by
  cases x with
  | error e =>
    constructor
    · intro h
      cases h
    · rintro ⟨a, ha, -⟩
      cases ha
  | ok a =>
    constructor
    · intro h
      exact ⟨a, rfl, h⟩
    · rintro ⟨a', ha, h⟩
      cases ha
      exact h

theorem walk_cons (name : Name) :
    f.walk start (name :: names) = (f.step start name >>= fun location => f.walk location names) :=
  List.foldlM_cons

theorem walk_concat (name : Name) :
    f.walk start (names ++ [name]) =
      (f.walk start names >>= fun location => f.step location name) := by
  unfold walk
  rw [List.foldlM_append]
  congr 1
  funext location
  simp

/-- **More directories are no hindrance.** -/
theorem walk_mono (hwithin : f.Within g) (h : f.walk start names = .ok location) :
    g.walk start names = .ok location := by
  induction names generalizing start with
  | nil => exact h
  | cons name names ih =>
    rw [walk_cons] at h ⊢
    obtain ⟨next, hnext, hrest⟩ := bind_eq_ok_iff.mp h
    exact bind_eq_ok_iff.mpr ⟨next, step_mono hwithin hnext, ih hrest⟩

/-! ### Making directories -/

/-- A name that leads nowhere leads to the directory that is made there. -/
theorem step_made {name : Name} (h : f.step start name = .error .missing)
    (hmade : g.isDirectory (start ++ [name]) = true) :
    g.step start name = .ok (start ++ [name]) := by
  unfold step at h ⊢
  by_cases hup : name = Path.upwards
  · rw [if_pos hup] at h
    cases h
  · rw [if_neg hup] at h ⊢
    by_cases hlong : Path.nameLimit < name.length
    · rw [if_pos hlong] at h
      cases h
    · rw [if_neg hlong, if_pos hmade]

/-- Make the directory of a name in another one. -/
def makeIn (f : Files) (location : Location) (name : Name) : Except Hindrance Files :=
  match f.step location name with
  | .ok _ => .ok f
  | .error .closed => .error .closed
  | .error .missing =>
    if f.fixed.contains location then .error .closed
    else .ok { f with directories := (location ++ [name]) :: f.directories }

theorem makeLast_cons (last : Name) (before : List Name) :
    f.makeLast start (last :: before) =
      (f.walk start before.reverse >>= fun location => f.makeIn location last) := rfl

/-- Once a directory is made its name leads there, and all others are there still. -/
theorem step_makeIn {name : Name} (h : f.makeIn location name = .ok f') :
    f.Within f' ∧ ∃ next, f'.step location name = .ok next := by
  unfold makeIn at h
  split at h
  · -- it was there already
    rename_i next hstep
    cases h
    exact ⟨fun _ hother => hother, next, hstep⟩
  · cases h
  · rename_i hstep
    split at h
    · cases h
    · cases h
      refine ⟨?_, location ++ [name], step_made hstep ?_⟩
      · intro other hother
        simp only [isDirectory, List.contains_cons, Bool.or_eq_true] at hother ⊢
        exact hother.imp_right Or.inr
      · simp [isDirectory]

/-- Once the last directory of a way is made, the way is open. -/
theorem walk_makeLast {last : Name} {before : List Name}
    (h : f.makeLast start (last :: before) = .ok f') :
    ∃ location, f'.walk start (last :: before).reverse = .ok location := by
  rw [makeLast_cons] at h
  obtain ⟨location, hbefore, hmade⟩ := bind_eq_ok_iff.mp h
  obtain ⟨hwithin, next, hnext⟩ := step_makeIn hmade
  rw [List.reverse_cons, walk_concat]
  exact ⟨next, bind_eq_ok_iff.mpr ⟨location, walk_mono hwithin hbefore, hnext⟩⟩

theorem walk_makeAll (h : f.makeAll start names = (f', true)) :
    ∃ location, f'.walk start names.reverse = .ok location := by
  cases names with
  | nil => exact ⟨start, rfl⟩
  | cons last before =>
    -- however the directories before it were made, the last one was made at the end
    unfold makeAll at h
    split at h
    · rename_i hmade
      cases h
      exact walk_makeLast hmade
    · cases h
    · split at h
      · cases h
      · split at h
        · rename_i hmade
          cases h
          exact walk_makeLast hmade
        · cases h

/-- Where there is a way nothing is made. -/
theorem makeAll_of_walk (h : f.walk start names.reverse = .ok location) :
    f.makeAll start names = (f, true) := by
  cases names with
  | nil => rfl
  | cons last before =>
    have hmade : f.makeLast start (last :: before) = .ok f := by
      rw [List.reverse_cons, walk_concat] at h
      obtain ⟨next, hbefore, hlast⟩ := bind_eq_ok_iff.mp h
      rw [makeLast_cons]
      refine bind_eq_ok_iff.mpr ⟨next, hbefore, ?_⟩
      simp only [makeIn, hlast]
    rw [makeAll, hmade]

/-- **A directory that was made is not made again.** -/
theorem makeDirectory_again {path : String} (h : f.makeDirectory start path = (f', true))
    (hwithin : f'.Within g) : g.makeDirectory start path = (g, true) := by
  unfold makeDirectory at h ⊢
  by_cases hbad : (Text.bytesOf path).contains 0 = true ∨
      Path.pathLimit < (Text.bytesOf path).length
  · simp only [if_pos hbad] at h
    cases h
  · simp only [if_neg hbad] at h ⊢
    obtain ⟨location, hwalk⟩ := walk_makeAll h
    exact makeAll_of_walk (walk_mono hwithin hwalk)

/-! ### Finding the file -/

@[simp] theorem write_directories (f : Files) (location : Location) (relation : Relation) :
    (f.write location relation).directories = f.directories := rfl

@[simp] theorem lookup_write (f : Files) (location : Location) (relation : Relation) :
    (f.write location relation).databases.lookup location = some relation :=
  List.lookup_cons_self

/-- Only what was written last counts. -/
@[simp] theorem write_write (f : Files) (location : Location) (relation relation' : Relation) :
    (f.write location relation).write location relation' = f.write location relation' := by
  simp [write]

/-- A file can stand at a location. -/
structure Hosts (f : Files) (location : Location) : Prop where
  named : ∃ name, location.getLast? = some name ∧ ¬ Path.nameLimit < name.length
  free : f.isDirectory location = false
  above : f.isDirectory location.dropLast = true

theorem Hosts.congr (h : f.Hosts location) (hg : g.directories = f.directories) :
    g.Hosts location := by
  have heq : ∀ other, g.isDirectory other = f.isDirectory other := by
    intro other
    rw [isDirectory, isDirectory, hg]
  exact ⟨h.named, (heq _).trans h.free, (heq _).trans h.above⟩

theorem hosts_of_place (h : f.place location ≠ .closed) : f.Hosts location := by
  unfold place at h
  cases hname : location.getLast? with
  | none => exact absurd (by rw [hname]) h
  | some name =>
    simp only [hname] at h
    by_cases hbad : Path.nameLimit < name.length ∨ f.isDirectory location = true ∨
        ¬ f.isDirectory location.dropLast = true
    · exact absurd (if_pos hbad) h
    · rw [not_or, not_or] at hbad
      obtain ⟨hlength, hfree, habove⟩ := hbad
      exact ⟨⟨name, hname, hlength⟩, Bool.not_eq_true _ ▸ hfree, Decidable.not_not.mp habove⟩

/-- A database stands where it was written. -/
theorem Hosts.place {relation : Relation} (h : f.Hosts location)
    (hlookup : f.databases.lookup location = some relation) :
    f.place location = .database relation := by
  obtain ⟨name, hname, hlength⟩ := h.named
  have hgood : ¬ (Path.nameLimit < name.length ∨ f.isDirectory location = true ∨
      ¬ f.isDirectory location.dropLast = true) := by
    rw [h.free, h.above]
    simpa using hlength
  simp only [Files.place, hname, if_neg hgood, hlookup]

/-! ### Opening it -/

/-- A proper table is opened as it is. -/
theorem open_table {name : String} {access : Access} {rows : List (String × Database.Cell)}
    (canChange : Bool) (h : access.writes = true) :
    (Place.database (.table rows)).open name access canChange = .ok (.table rows) := by
  simp [Place.open, Relation.prepare, Relation.create, Except.map, h]

/-- Whenever a file has the table at a location, a name opens just this table. -/
def Leads (f : Files) (start : Location) (name : String) (location : Location) : Prop :=
  ∀ rows, (f.write location (.table rows)).openDatabase start name =
    (.ok ⟨.table rows, some location⟩, f.write location (.table rows))

/-- Whoever has opened a file that can be written could find it, and has written it. -/
theorem openLocated_spec {name : String} {locator : Locator} {opened : Opened}
    (h : f.openLocated start name locator = (.ok opened, f'))
    (hlocation : opened.location = some location) :
    ∃ path access, locator = .file path access ∧ access.writes = true ∧
      locate? start path = some location ∧ f.Hosts location ∧
      ∃ before : Files, before.directories = f.directories ∧
        f' = before.write location opened.relation := by
  cases locator with
  | memory writes =>
    -- a database in memory is nowhere
    cases writes with
    | false => cases h
    | true =>
      cases h
      cases hlocation
  | file path access =>
    cases hlocate : locate? start path with
    | none =>
      simp only [openLocated, hlocate] at h
      cases h
    | some location' =>
      simp only [openLocated, hlocate] at h
      have hdirectories : (if f.place location' = .vacant ∧ access.creates = true then
          f.write location' .missing else f).directories = f.directories := by
        split <;> rfl
      generalize (if f.place location' = .vacant ∧ access.creates = true then
        f.write location' .missing else f) = before at h hdirectories
      cases hopen : (f.place location').open name access (before.admitsJournal location') with
      | error e =>
        rw [hopen] at h
        cases h
      | ok relation =>
        rw [hopen] at h
        dsimp only at h
        split at h
        · rename_i hwrites
          cases h
          cases hlocation
          have hplace : f.place location ≠ .closed := by
            intro hclosed
            rw [hclosed] at hopen
            cases hopen
          have hhosts := hosts_of_place hplace
          exact ⟨path, access, rfl, hwrites, hlocate, hhosts, before, hdirectories, rfl⟩
        · cases h
          cases hlocation

theorem openLocated_table {name : String} {path : List UInt8} {access : Access}
    {rows : List (String × Database.Cell)} (hlocate : locate? start path = some location)
    (hhosts : f.Hosts location) (hwrites : access.writes = true) :
    (f.write location (.table rows)).openLocated start name (.file path access) =
      (.ok ⟨.table rows, some location⟩, f.write location (.table rows)) := by
  have hthere : (f.write location (.table rows)).place location = .database (.table rows) :=
    (hhosts.congr (write_directories f location _)).place (lookup_write f location _)
  have hfull : ¬ (Place.database (.table rows) = .vacant ∧ access.creates = true) := by
    rintro ⟨hvacant, -⟩
    cases hvacant
  simp only [openLocated, hlocate, hthere, if_neg hfull, open_table _ hwrites, if_pos hwrites,
    write_write]

/-- **A file is found again.**  Whoever has opened a database in a file that can be written
has written that file, and by the same name opens what the file holds then. -/
theorem openDatabase_again {name : String} {opened : Opened}
    (h : f.openDatabase start name = (.ok opened, f'))
    (hlocation : opened.location = some location) :
    (∃ before : Files, f' = before.write location opened.relation) ∧
      f'.Leads start name location := by
  unfold openDatabase at h
  cases hmade : f.makeDirectory start ((Path.above? name).getD "") with
  | mk made all =>
    simp only [hmade] at h
    cases all with
    | false => cases h
    | true =>
      cases hlocator : Locator.ofName? name with
      | none =>
        simp only [hlocator] at h
        cases h
      | some locator =>
        simp only [hlocator] at h
        obtain ⟨path, access, rfl, hwrites, hlocate, hhosts, before, hdirectories, rfl⟩ :=
          openLocated_spec h hlocation
        refine ⟨⟨before, rfl⟩, ?_⟩
        intro rows
        rw [write_write]
        have hwithin : made.Within (before.write location (.table rows)) := .of_eq hdirectories
        have hagain := makeDirectory_again hmade hwithin
        have hopened : (before.write location (.table rows)).openLocated start name
            (.file path access) =
              (.ok ⟨.table rows, some location⟩, before.write location (.table rows)) :=
          openLocated_table hlocate (hhosts.congr hdirectories) hwrites
        simp only [openDatabase, hagain, hlocator, hopened]

end Files

end SessionKeeper
