import ProcCall.Proofs.Call.Faults

/-! # The journal of a call

A journal lists the steps of a call in the order in which they are taken, each with its
failure if it has one. Keeping a journal takes the same steps on the database as the
call, and the failures in the outcome of the call are those in the journal.
-/

namespace ProcCall

/-- The steps that make up a call. Arrays are made and released for arguments. -/
inductive CallStep where
  | make (argument : Nat)
  | prepare | bind | register | execute | read
  | releaseResult | close
  | release (argument : Nat)
  deriving DecidableEq, Repr

/-- The steps that were taken, each with its failure. -/
abbrev Journal := List (CallStep × Option Fault)

namespace Journal

def failures (j : Journal) : List Fault := j.filterMap Prod.snd

theorem failures_append (j k : Journal) : failures (j ++ k) = failures j ++ failures k :=
  List.filterMap_append

theorem failures_cons (s : CallStep) (f : Option Fault) (j : Journal) :
    failures ((s, f) :: j) = f.toList ++ failures j := by
  cases f <;> rfl

def done (steps : List CallStep) : Journal := steps.map fun s => (s, none)

theorem failures_done (steps : List CallStep) : failures (done steps) = [] := by
  induction steps with
  | nil => rfl
  | cons s steps ih => exact ih

def plain (steps : List (CallStep × Option BackendError)) : Journal :=
  steps.map fun (s, e) => (s, e.map Fault.backend)

theorem failures_plain (steps : List (CallStep × Option BackendError)) :
    failures (plain steps) = (steps.filterMap Prod.snd).map Fault.backend := by
  rw [failures, plain, List.filterMap_map, List.map_filterMap]
  rfl

theorem exists_backend_of_plain {steps : List (CallStep × Option BackendError)} {f : Fault}
    (h : f ∈ failures (plain steps)) : ∃ e, f = .backend e := by
  rw [failures_plain] at h
  obtain ⟨e, _, rfl⟩ := List.mem_map.mp h
  exact ⟨e, rfl⟩

end Journal

open Journal

variable (d : Driver)

/-! ## Keeping a journal -/

/-- Takes a step and, if it does not fail, those that follow. -/
def thenSteps {α : Type} (s : CallStep) (a : Action CallError α)
    (next : α → StateM Database Journal) : StateM Database Journal := do
  match ← a.run with
  | .error e => pure [(s, some e.first)]
  | .ok v => do
    let later ← next v
    pure ((s, none) :: later)

namespace Extractor

def resultRelease : Option ArrayHandle → StateM Database (List (Option BackendError))
  | none => pure []
  | some handle => do pure [backendFailure (← (d.free handle).run)]

end Extractor

namespace Descriptor

variable (x : Descriptor) (args : List Argument)

def runJournal (leases : List ArrayLease) (stmt : Statement) : StateM Database Journal :=
  thenSteps .bind (x.inputs.bind d stmt args leases) fun _ =>
    thenSteps .register (x.output.register d stmt) fun _ =>
      thenSteps .execute (x.extractor.start d stmt) fun rows => do
        let (outcome, handle) ← x.extractor.read d stmt x.output args rows
        let released ← Extractor.resultRelease d handle
        pure ((.read, failureOf outcome) :: plain (released.map (.releaseResult, ·)))

def executeJournal (leases : List ArrayLease) : StateM Database Journal :=
  thenSteps .prepare (d.prepare x.callString).asCall fun stmt => do
    let work ← x.runJournal d args leases stmt
    let closed ← (d.close stmt).run
    pure (work ++ plain [(.close, backendFailure closed)])

def journal : StateM Database Journal := do
  let (leases, refusal) ← ArrayLease.make d args x.arraySlots
  let work ← match refusal with
    | some (i, e) => pure [(.make i, some e.first)]
    | none => x.executeJournal d args leases
  let released ← ArrayLease.releases d leases
  pure (done (leases.map fun l => .make l.argument) ++ work ++
    plain (released.map fun (i, e) => (.release i, e)))

end Descriptor

/-! ## Journals and outcomes -/

/-- The journal takes the steps of the action and has its failures. -/
def Tells {α : Type} (j : StateM Database Journal) (a : Action CallError α) : Prop :=
  ∀ db, (db.run j).2 = (a.on db).2 ∧ (db.run j).1.failures = failuresOf (a.on db).1

theorem failures_plain_backendFailure (s : CallStep) (o : Except BackendError Unit) :
    failures (plain [(s, backendFailure o)]) = failuresOf (o.mapError CallError.backend) := by
  rcases o with e | ⟨⟩ <;> rfl

theorem tells_thenSteps {α β : Type} {s : CallStep} {a : Action CallError α}
    {next : α → StateM Database Journal} {f : α → Action CallError β} (ha : a.OneFault)
    (hf : ∀ v, Tells (next v) (f v)) : Tells (thenSteps s a next) (a >>= f) := by
  intro db
  have ha := ha db
  rw [thenSteps, Database.run_bind, Action.run_run, Action.on_bind]
  rcases ho : a.on db with ⟨e | v, db'⟩ <;> rw [ho] at ha
  · exact ⟨rfl, ha.failuresOf_eq.symm⟩
  · exact hf v db'

theorem tells_thenRelease {α : Type} {j : StateM Database Journal} {a : Action CallError α}
    (h : Tells j a) (s : CallStep) (r : Action BackendError Unit) :
    Tells (do
      let work ← j
      let released ← r.run
      pure (work ++ plain [(s, backendFailure released)])) (a.thenRelease r.asCall) := by
  intro db
  obtain ⟨hdb, hf⟩ := h db
  rw [Action.on_thenRelease, failuresOf_mergeRelease, ← hf, ← hdb]
  refine ⟨rfl, ?_⟩
  rw [Database.run_bind, Database.run_bind, Database.run_pure, failures_append,
    failures_plain_backendFailure]
  rfl

namespace ArrayLease

theorem failures_releases (passed : List (Nat × Option BackendError)) :
    failures (plain (passed.map fun (i, e) => (.release i, e))) =
      (passed.filterMap Prod.snd).map Fault.backend := by
  rw [failures_plain, List.filterMap_map]
  rfl

end ArrayLease

namespace Extractor

variable (stmt : Statement) (out : Registrar) (args : List Argument)

theorem tells_result (x : Extractor) (rows : Option RowSet) :
    Tells (do
      let (outcome, handle) ← x.read d stmt out args rows
      let released ← resultRelease d handle
      pure ((.read, failureOf outcome) :: plain (released.map (.releaseResult, ·))))
      (x.result d stmt out args rows) := by
  intro db
  have hr := (unwrapped_read d stmt out args rows x db).oneFault
  rw [result_on, Database.run_bind]
  rcases ho : db.run (x.read d stmt out args rows) with ⟨⟨outcome, handle⟩, db'⟩
  rw [ho] at hr
  dsimp only at hr ⊢
  rw [failuresOf_mergeRelease, hr.failuresOf_eq]
  cases handle with
  | none => exact ⟨rfl, failures_cons _ _ _⟩
  | some handle =>
    refine ⟨rfl, (failures_cons _ _ _).trans (congrArg _ ?_)⟩
    exact failures_plain_backendFailure .releaseResult ((d.free handle).on db').1

end Extractor

namespace Descriptor

variable (x : Descriptor) (args : List Argument)

theorem tells_run (leases : List ArrayLease) (stmt : Statement) :
    Tells (x.runJournal d args leases stmt) (x.run d args leases stmt) := by
  refine tells_thenSteps (x.inputs.unwrapped_bind d stmt args leases).oneFault fun _ => ?_
  refine tells_thenSteps (x.output.unwrapped_register d stmt).oneFault fun _ => ?_
  refine tells_thenSteps (Extractor.unwrapped_start d stmt x.extractor).oneFault fun rows => ?_
  exact Extractor.tells_result d stmt x.output args x.extractor rows

theorem tells_execute (leases : List ArrayLease) :
    Tells (x.executeJournal d args leases) (x.execute d args leases) := by
  refine tells_thenSteps (Action.unwrapped_asCall _).oneFault fun stmt => ?_
  exact tells_thenRelease (x.tells_run d args leases stmt) .close (d.close stmt)

theorem tells_close {α : Type} {j : StateM Database Journal} {a : Action CallError α}
    (h : Tells j a) (leases : List ArrayLease) (made : List CallStep) :
    Tells (do
      let work ← j
      let released ← ArrayLease.releases d leases
      pure (done made ++ work ++ plain (released.map fun (i, e) => (.release i, e))))
      (a.thenRelease (ArrayLease.close d leases)) := by
  intro db
  obtain ⟨hdb, hf⟩ := h db
  rw [Action.on_thenRelease, ArrayLease.close_on, ← hdb]
  refine ⟨rfl, ?_⟩
  rw [failuresOf_mergeRelease, ← hf, failuresOf_ofFailures, CallError.flattenAll_map_backend]
  simp only [Database.run_bind, Database.run_pure, failures_append, failures_done,
    List.nil_append, ArrayLease.failures_releases]
  rfl

/-- The journal of an invocation has its failures before the first one is wrapped. -/
theorem journal_tells (db : Database) :
    ∃ outcome, (db.run (x.journal d args)).1.failures = failuresOf outcome ∧
      (x.invoke d args).on db = (outcome.mapError x.wrap, (db.run (x.journal d args)).2) := by
  have hmaking := ArrayLease.making_make d args x.arraySlots db
  rw [invoke, Action.on_adapt, Action.on_bind, ArrayLease.create_on, journal, Database.run_bind]
  rcases hm : db.run (ArrayLease.make d args x.arraySlots) with ⟨⟨leases, _ | ⟨i, e⟩⟩, db'⟩
  · obtain ⟨hdb, hf⟩ := tells_close d (x.tells_execute d args leases) leases
      (leases.map fun l => .make l.argument) db'
    exact ⟨_, hf, congrArg (Prod.mk _) hdb.symm⟩
  · rw [hm] at hmaking
    obtain ⟨f, rfl, _⟩ := hmaking.fault _ _ rfl
    have hr : Tells (pure [(.make i, some f)]) (Action.fault f : Action CallError Unit) :=
      fun _ => ⟨rfl, rfl⟩
    obtain ⟨hdb, hf⟩ := tells_close d hr leases (leases.map fun l => .make l.argument) db'
    rw [Action.on_thenRelease, ArrayLease.close_run] at hdb hf
    let late := (db'.run (ArrayLease.releaseAll d leases)).1
    refine ⟨.error ((CallError.fault f).withSuppressed late), hf.trans ?_,
      congrArg (Prod.mk _) hdb.symm⟩
    rw [failuresOf_mergeRelease]
    refine .trans ?_ (CallError.flatten_withSuppressed _ _).symm
    exact congrArg _ (failuresOf_ofFailures _)

end Descriptor

end ProcCall
