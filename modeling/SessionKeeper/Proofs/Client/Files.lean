import SessionKeeper.Proofs.Client.Steps

/-! # What a client keeps about a task

A client keeps its tasks, what they have sent, the replies they wait for and
their outcomes in four lists, in which all tasks stand mixed.  The *file* of a
task is what of all this concerns the task alone.

A step of a client concerns one task at most.  So each part of a step has one
equation here, which says what it does to every file; what happens to the session
is nothing to any of them.

Core Lean 4 only; no Mathlib. -/

namespace SessionKeeper

namespace Client

/-! ### Files -/

/-- The requests that were sent for an owner, oldest first. -/
def sentBy (c : Client) (owner : Owner) : List Http.Request :=
  (c.sent.filter (·.owner = owner)).map (·.request)

/-- The numbers of the requests for whose replies an owner waits. -/
def awaitedBy (c : Client) (owner : Owner) : List Nat :=
  (c.awaiting.filter (·.2 = owner)).map (·.1)

/-- The outcomes of task `n`. -/
def outcomesOf (c : Client) (n : Nat) : List Client.Outcome :=
  (c.settled.filter (·.1 = n)).map (·.2)

/-- What a client keeps about one task. -/
structure File where
  /-- The task itself, if there is one. -/
  task : Option Task
  /-- The requests that it has sent, oldest first. -/
  sent : List Http.Request
  /-- The numbers of those whose replies it waits for. -/
  awaited : List Nat
  outcomes : List Client.Outcome

/-- The file of task `n`. -/
def file (c : Client) (n : Nat) : File :=
  ⟨c.tasks[n]?, c.sentBy (.task n), c.awaitedBy (.task n), c.outcomesOf n⟩

namespace File

/-- The task has come to a stage. -/
def come (f : File) (stage : Stage) : File :=
  { f with task := f.task.map fun t => { t with stage } }

/-- The task has sent request `id`. -/
def send (f : File) (id : Nat) (r : Http.Request) : File :=
  { f with sent := f.sent ++ [r], awaited := f.awaited ++ [id] }

/-- The task has ended. -/
def finish (f : File) (o : Client.Outcome) : File :=
  { f.come .done with outcomes := f.outcomes ++ [o] }

/-- An event brings the reply to a request, and nobody waits for it any more. -/
def hear (f : File) (reply? : Option Nat) : File :=
  { f with awaited := f.awaited.filter fun id => reply? ≠ some id }

@[simp] theorem hear_none (f : File) : f.hear none = f := by
  have hsame : f.awaited.filter (fun id => none ≠ some id) = f.awaited :=
    List.filter_eq_self.mpr fun _ _ => rfl
  simp only [hear, hsame]

theorem hear_of_not_mem {f : File} {id : Nat} (h : id ∉ f.awaited) : f.hear (some id) = f := by
  have hsame : f.awaited.filter (fun id' => some id ≠ some id') = f.awaited := by
    rw [List.filter_eq_self]
    intro id' hmem
    simp only [ne_eq, Option.some.injEq, decide_eq_true_eq]
    rintro rfl
    exact h hmem
  simp only [hear, hsame]

end File

/-! ### The parts of a step -/

section parts

variable (c : Client) (n m : Nat)

theorem file_setStage (stage : Stage) :
    (c.setStage n stage).file m = if m = n then (c.file m).come stage else c.file m := by
  simp only [setStage, file, File.come, List.getElem?_modify]
  by_cases h : m = n
  · subst h
    cases hm : c.tasks[m]? <;> simp [sentBy, awaitedBy, outcomesOf]
  · cases hm : c.tasks[m]? <;> simp [sentBy, awaitedBy, outcomesOf, h, Ne.symm h]

theorem file_transmit (owner : Owner) (r : Http.Request) :
    (c.transmit owner r).file m =
      if owner = .task m then (c.file m).send c.sent.length r else c.file m := by
  by_cases h : owner = .task m
  · simp [transmit, file, sentBy, awaitedBy, outcomesOf, File.send, h]
  · simp [transmit, file, sentBy, awaitedBy, outcomesOf, h]

theorem file_finish (o : Client.Outcome) :
    (c.finish n o).file m = if m = n then (c.file m).finish o else c.file m := by
  have hstage := file_setStage c n m .done
  by_cases h : m = n
  · subst h
    rw [if_pos rfl] at hstage
    simp only [File.finish, ← hstage, if_true]
    simp [Client.finish, file, sentBy, awaitedBy, outcomesOf]
  · rw [if_neg h] at hstage
    rw [if_neg h, ← hstage]
    simp [Client.finish, setStage, file, sentBy, awaitedBy, outcomesOf, Ne.symm h]

theorem file_spawn (purpose : Purpose) (request : Except Http.BuildError Http.Request) :
    (c.spawn purpose request).file m =
      if m = c.tasks.length then { c.file m with task := some ⟨purpose, request, .starting⟩ }
      else c.file m := by
  by_cases hm : m = c.tasks.length
  · subst hm
    simp [spawn, file, sentBy, awaitedBy, outcomesOf, enable]
  · have htask : (c.tasks ++ [⟨purpose, request, .starting⟩])[m]? = c.tasks[m]? := by
      by_cases hlt : m < c.tasks.length
      · exact List.getElem?_append_left hlt
      · rw [List.getElem?_eq_none (by simp; omega), List.getElem?_eq_none (by omega)]
    simp [spawn, file, sentBy, awaitedBy, outcomesOf, enable, hm, htask]

theorem file_abort : (c.abort n).file m =
    if m = n then { (c.file m).come .done with awaited := [] } else c.file m := by
  have hstage := file_setStage c n m .done
  by_cases hm : m = n
  · subst hm
    rw [if_pos rfl] at hstage
    rw [if_pos rfl, ← hstage]
    simp [abort, file, awaitedBy, sentBy, outcomesOf, setStage, List.filter_filter]
  · rw [if_neg hm] at hstage
    rw [if_neg hm, ← hstage]
    simp only [abort, file, awaitedBy, sentBy, outcomesOf, setStage, List.filter_filter]
    congr 2
    refine List.filter_congr fun p _ => ?_
    by_cases hp : p.2 = .task m <;> simp [hp, hm]

@[simp] theorem enable_nil : c.enable [] = c := by
  rw [enable, List.append_nil]

@[simp] theorem file_enable (steps : List Step) : (c.enable steps).file m = c.file m := rfl

@[simp] theorem file_withDesk (f : SingleFlight) :
    ({ c with desk := f } : Client).file m = c.file m :=
  rfl

@[simp] theorem file_settleFlight (g : Generation) (result : Except CallError Credentials) :
    (c.settleFlight g result).file m = c.file m := by
  unfold settleFlight
  rcases c.desk.settle g result with ⟨_ | ⟨waiters, outcome⟩, f⟩ <;> rfl

end parts

/-! ### What is no task's business -/

/-- `d` is `c` but for its session, and for what the application was told. -/
structure Beside (c d : Client) : Prop where
  options : d.options = c.options
  flight : d.desk.flight = c.desk.flight
  tasks : d.tasks = c.tasks
  sent : d.sent = c.sent
  awaiting : d.awaiting = c.awaiting
  ready : d.ready = c.ready
  settled : d.settled = c.settled

namespace Beside

variable {c d d' : Client}

theorem refl (c : Client) : Beside c c :=
  ⟨rfl, rfl, rfl, rfl, rfl, rfl, rfl⟩

theorem trans (h : Beside c d) (h' : Beside d d') : Beside c d' :=
  ⟨h'.options.trans h.options, h'.flight.trans h.flight, h'.tasks.trans h.tasks,
    h'.sent.trans h.sent, h'.awaiting.trans h.awaiting, h'.ready.trans h.ready,
    h'.settled.trans h.settled⟩

theorem setSession (c : Client) (s : Session) : Beside c (c.setSession s) :=
  ⟨rfl, rfl, rfl, rfl, rfl, rfl, rfl⟩

theorem promptSignIn (c : Client) : Beside c c.promptSignIn := by
  unfold Client.promptSignIn
  rcases c.session.claimPrompt with ⟨_ | _, s⟩ <;> exact ⟨rfl, rfl, rfl, rfl, rfl, rfl, rfl⟩

theorem signOut (c : Client) : Beside c c.signOut :=
  (setSession c _).trans (promptSignIn _)

theorem file (h : Beside c d) (n : Nat) : d.file n = c.file n := by
  simp only [Client.file, sentBy, awaitedBy, outcomesOf, h.tasks, h.sent, h.awaiting, h.settled]

end Beside

/-- Task `n` ends with an outcome, and nothing else changes that is any task's
business. -/
inductive Ended (c : Client) (n : Nat) (o : Client.Outcome) : Client → Prop where
  | mk {d : Client} (beside : Beside c d) : Ended c n o (d.finish n o)

section ended

variable (c : Client) (n : Nat)

theorem finish_ended (o : Client.Outcome) : Ended c n o (c.finish n o) :=
  .mk (.refl c)

theorem expel_ended (e : CallError) : Ended c n (.failed e) (c.expel n e) :=
  .mk (.signOut c)

theorem surface_ended (e : CallError) : Ended c n (.failed e) (c.surface n e) := by
  unfold surface
  split
  · exact .mk ⟨rfl, rfl, rfl, rfl, rfl, rfl, rfl⟩
  · exact finish_ended c n _

theorem rejectAnonymous_ended : ∃ o, Ended c n o (c.rejectAnonymous n) := by
  unfold rejectAnonymous
  split
  · exact ⟨_, finish_ended c n _⟩
  · exact ⟨_, .mk (.promptSignIn c)⟩

theorem complete_ended (purpose : Purpose) (response : Http.Response) :
    ∃ o, Ended c n o (c.complete n purpose response) := by
  unfold complete
  cases purpose with
  | exchange => exact ⟨_, finish_ended c n _⟩
  | signIn =>
    cases Credentials.issuedBy response c.options.refreshCookieName with
    | error e => exact ⟨_, finish_ended c n _⟩
    | ok credentials => exact ⟨_, .mk (.setSession c _)⟩

end ended

theorem Ended.file {c c' : Client} {n : Nat} {o : Client.Outcome} (h : Ended c n o c') (m : Nat) :
    c'.file m = if m = n then (c.file m).finish o else c.file m := by
  obtain ⟨hbeside⟩ := h
  rw [file_finish, hbeside.file]

end Client

end SessionKeeper
