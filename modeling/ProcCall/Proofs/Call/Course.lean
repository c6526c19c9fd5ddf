import ProcCall.Proofs.Call.Journal

/-! # The course of a call

Journals have few shapes. Either an array argument is refused, or the call is prepared,
bound, registered, executed and read up to the first step that fails. What was made,
prepared or handed out before is released in any case, and releases fail only with
failures of the database.
-/

namespace ProcCall

open Journal

/-- The steps from binding to the release of the result. -/
inductive Worked : Journal → Prop
  | stopped (before : List CallStep) {step : CallStep} {after : List CallStep}
      (split : [.bind, .register, .execute] = before ++ step :: after) (f : Fault) :
      Worked (done before ++ [(step, some f)])
  | read (f : Option Fault) {released : List (Option BackendError)} (h : released.length ≤ 1) :
      Worked (done [.bind, .register, .execute] ++
        (.read, f) :: plain (released.map (.releaseResult, ·)))

/-- The steps from preparing a call to closing it. -/
inductive Performed : Journal → Prop
  | unprepared (f : Fault) : Performed [(.prepare, some f)]
  | closed {work : Journal} (h : Worked work) (e : Option BackendError) :
      Performed ((.prepare, none) :: (work ++ plain [(.close, e)]))

/-- The steps of an invocation. Arrays are made in the order of the slots, and those made
are released in the same order. -/
inductive Course (slots : List ArraySlot) : Journal → Prop
  | refused {made : List (Nat × Option BackendError)} {argument : Nat}
      (order : (made.map Prod.fst ++ [argument]).Sublist (slots.map ArraySlot.argument))
      (f : Fault) :
      Course slots (done (made.map fun r => .make r.1) ++ [(.make argument, some f)] ++
        plain (made.map fun r => (.release r.1, r.2)))
  | performed {made : List (Nat × Option BackendError)} {work : Journal}
      (order : (made.map Prod.fst).Sublist (slots.map ArraySlot.argument)) (h : Performed work) :
      Course slots (done (made.map fun r => .make r.1) ++ work ++
        plain (made.map fun r => (.release r.1, r.2)))

/-! ## Failures after the first -/

def FirstThenBackend (failures : List Fault) : Prop := ∀ f ∈ failures.tail, ∃ e, f = .backend e

theorem FirstThenBackend.append_plain {failures : List Fault} (h : FirstThenBackend failures)
    (steps : List (CallStep × Option BackendError)) :
    FirstThenBackend (failures ++ (plain steps).failures) := by
  intro f hf
  cases failures with
  | nil => exact exists_backend_of_plain (List.mem_of_mem_tail hf)
  | cons first late =>
    rcases List.mem_append.mp hf with hf | hf
    · exact h f hf
    · exact exists_backend_of_plain hf

theorem firstThenBackend_toList (f : Option Fault) : FirstThenBackend f.toList := by
  cases f <;> exact nofun

theorem Worked.failures {j : Journal} (h : Worked j) : FirstThenBackend j.failures := by
  cases h with
  | stopped _ _ f =>
    rw [failures_append, failures_done]
    exact firstThenBackend_toList (some f)
  | read f _ =>
    rw [failures_append, failures_done, failures_cons]
    exact (firstThenBackend_toList f).append_plain _

theorem Performed.failures {j : Journal} (h : Performed j) : FirstThenBackend j.failures := by
  cases h with
  | unprepared f => exact firstThenBackend_toList (some f)
  | closed h e =>
    rw [failures_cons, failures_append]
    exact h.failures.append_plain _

theorem Course.failures {slots : List ArraySlot} {j : Journal} (h : Course slots j) :
    FirstThenBackend j.failures := by
  cases h with
  | refused _ f =>
    rw [failures_append, failures_append, failures_done]
    exact (firstThenBackend_toList (some f)).append_plain _
  | performed _ h =>
    rw [failures_append, failures_append, failures_done]
    exact h.failures.append_plain _

/-! ## Journals that are kept -/

variable (d : Driver)

theorem thenSteps_cases {α : Type} (s : CallStep) (a : Action CallError α)
    (next : α → StateM Database Journal) (db : Database) :
    (∃ f, (db.run (thenSteps s a next)).1 = [(s, some f)]) ∨
      ∃ v db', (db.run (thenSteps s a next)).1 = (s, none) :: (Database.run db' (next v)).1 := by
  rw [thenSteps, Database.run_bind, Action.run_run]
  rcases a.on db with ⟨e | v, db'⟩
  · exact .inl ⟨e.first, rfl⟩
  · exact .inr ⟨v, db', rfl⟩

theorem Extractor.length_resultRelease (handle : Option ArrayHandle) (db : Database) :
    (db.run (resultRelease d handle)).1.length ≤ 1 := by
  cases handle with
  | none => exact Nat.zero_le 1
  | some handle => exact Nat.le_refl 1

namespace ArrayLease

theorem arguments_releases (leases : List ArrayLease) (db : Database) :
    (db.run (releases d leases)).1.map Prod.fst = leases.map ArrayLease.argument := by
  induction leases generalizing db with
  | nil => rfl
  | cons l rest ih => exact congrArg (l.argument :: ·) (ih _)

end ArrayLease

namespace Descriptor

variable (x : Descriptor) (args : List Argument)

theorem worked_runJournal (leases : List ArrayLease) (stmt : Statement) (db : Database) :
    Worked (db.run (x.runJournal d args leases stmt)).1 := by
  obtain ⟨f, h⟩ | ⟨_, db, h⟩ := thenSteps_cases .bind _ _ db <;> rw [runJournal, h]
  · exact .stopped [] rfl f
  obtain ⟨f, h⟩ | ⟨_, db, h⟩ := thenSteps_cases .register _ _ db <;> rw [h]
  · exact .stopped [.bind] rfl f
  obtain ⟨f, h⟩ | ⟨rows, db, h⟩ := thenSteps_cases .execute _ _ db <;> rw [h]
  · exact .stopped [.bind, .register] rfl f
  · exact .read _ (Extractor.length_resultRelease d _ _)

theorem performed_executeJournal (leases : List ArrayLease) (db : Database) :
    Performed (db.run (x.executeJournal d args leases)).1 := by
  obtain ⟨f, h⟩ | ⟨stmt, db, h⟩ := thenSteps_cases .prepare _ _ db <;> rw [executeJournal, h]
  · exact .unprepared f
  · exact .closed (x.worked_runJournal d args leases stmt db) _

theorem course_journal (db : Database) : Course x.arraySlots (db.run (x.journal d args)).1 := by
  have horder := (ArrayLease.making_make d args x.arraySlots db).arguments
  rw [journal, Database.run_bind]
  rcases hm : db.run (ArrayLease.make d args x.arraySlots) with ⟨⟨leases, refusal⟩, db₁⟩
  rw [hm] at horder
  -- The releases give the arguments of the arrays that were made.
  have hmade : ∀ db₂ : Database, leases.map (fun l => CallStep.make l.argument) =
      (db₂.run (ArrayLease.releases d leases)).1.map fun r => .make r.1 := by
    intro db₂
    have ha := congrArg (List.map CallStep.make) (ArrayLease.arguments_releases d leases db₂)
    rw [List.map_map, List.map_map] at ha
    exact ha.symm
  rcases refusal with _ | ⟨i, e⟩
  · rw [Option.toList_none, List.map_nil, List.append_nil, ← ArrayLease.arguments_releases d leases
      (db₁.run (x.executeJournal d args leases)).2] at horder
    simp only [Database.run_bind, Database.run_pure]
    rw [hmade]
    exact .performed horder (x.performed_executeJournal d args leases db₁)
  · rw [← ArrayLease.arguments_releases d leases db₁] at horder
    simp only [Database.run_bind, Database.run_pure]
    rw [hmade]
    exact .refused horder e.first

end Descriptor

end ProcCall
