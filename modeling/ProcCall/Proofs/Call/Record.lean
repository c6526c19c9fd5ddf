import ProcCall.Call.Descriptor
import ProcCall.Proofs.Call.Answer
import ProcCall.Proofs.Call.Binding
import ProcCall.Proofs.Call.Creation

/-! # The record of a call

On the scripted driver an invocation leaves at most one record of a call, which says what
was bound and registered and is closed, and each array it made or was handed has been
released once when it ends.
-/

namespace ProcCall

namespace Registrar

theorem register_on (r : Registrar) (stmt : Statement) (db : Database) :
    (r.register Scripted.driver stmt).on db =
      (.ok (), db.update stmt.call fun c =>
        { c with registered := c.registered ++ r.target?.toList }) := by
  unfold register
  rcases r.target? with _ | ⟨slot, t⟩
  · simp only [Option.toList_none, List.append_nil]
    rw [Action.on_pure, Binder.update_same]
  · rfl

end Registrar

namespace Script

def closeOutcome (s : Script) : Except CallError Unit :=
  match s.closeError with
  | some e => .error (.backend e)
  | none => .ok ()

end Script

namespace Descriptor

variable (x : Descriptor) (args : List Argument) (leases : List ArrayLease)

/-- The record before the call is closed. What comes after a refused argument never happens. -/
def openRecord (s : Script) : CallRecord :=
  let bound : CallRecord := { call := x.callString, bindings := (x.inputs.entries args leases).1 }
  match (x.inputs.entries args leases).2 with
  | some _ => bound
  | none => x.extractor.startRecord s { bound with registered := x.output.target?.toList }

def record (s : Script) : CallRecord := { x.openRecord args leases s with closed := true }

/-- What a call gives that could be prepared, and the array that it comes in. A refused
argument comes before a failure of the call. -/
def answer (s : Script) : Except CallError Value × Option ArrayData :=
  match (x.inputs.entries args leases).2, Extractor.started s with
  | some e, _ => (.error e, none)
  | none, .error e => (.error e, none)
  | none, .ok rows =>
    x.extractor.answer s x.output (x.inputs.entries args leases).1 args rows

theorem registeredIn_recorded {db : Database} {stmt : Statement} {r : CallRecord}
    (hs : stmt.call = db.calls.length) (hr : r.registered = x.output.target?.toList) :
    x.output.RegisteredIn stmt (db.recorded r) := by
  intro slot hslot
  obtain ⟨target, htarget, rfl⟩ := Option.map_eq_some_iff.mp hslot
  rw [hs, Database.record?_recorded, Option.any_some, CallRecord.isRegistered, hr, htarget]
  exact (List.any_cons ..).trans (by rw [beq_self_eq_true, Bool.true_or])

theorem run_on (db : Database) {stmt : Statement} (hs : stmt.call = db.calls.length) :
    (x.run Scripted.driver args leases stmt).on (db.begun x.callString) =
      (mergeRelease (x.answer args leases stmt.script).1
          (db.returnOutcome (x.answer args leases stmt.script).2),
        (db.recorded (x.openRecord args leases stmt.script)).returned
          (x.answer args leases stmt.script).2) := by
  rw [run, Action.on_bind, Binder.bind_on, openRecord, answer, hs, Database.begun_update]
  rcases x.inputs.entries args leases with ⟨entries, _ | e⟩
  · simp only [Binder.outcome, Action.on_bind, Registrar.register_on, Extractor.extract, hs,
      Database.recorded_update, List.nil_append]
    have htaken : stmt.script.hasRows = true → ((db.recorded
        { call := x.callString, bindings := entries,
          registered := x.output.target?.toList }).record?
            stmt.call).any CallRecord.rowsTaken = false := by
      intro _
      rw [hs, Database.record?_recorded]
      rfl
    rw [Extractor.start_on stmt _ htaken, hs, Database.recorded_update]
    rcases Extractor.started stmt.script with e | rows
    · rfl
    · dsimp only
      have hb := db.record?_recorded (x.extractor.startRecord stmt.script
        { call := x.callString, bindings := entries, registered := x.output.target?.toList })
      rw [← hs] at hb
      exact Extractor.result_on_answer (x.registeredIn_recorded hs rfl) hb x.extractor
  · rfl

/-- A call that can be prepared adds its record and gives its answer. -/
theorem execute_on (db : Database) :
    (x.execute Scripted.driver args leases).on db =
      match (db.script x.callString).prepareError with
      | some e => (.error (.backend e), db)
      | none =>
        (mergeRelease
            (mergeRelease (x.answer args leases (db.script x.callString)).1
              (db.returnOutcome (x.answer args leases (db.script x.callString)).2))
            (db.script x.callString).closeOutcome,
          (db.recorded (x.record args leases (db.script x.callString))).returned
            (x.answer args leases (db.script x.callString)).2) := by
  rw [execute, Action.on_bind, Action.on_asCall, Scripted.prepare_on]
  rcases (db.script x.callString).prepareError with _ | e
  · let stmt : Statement := ⟨db.calls.length, db.script x.callString⟩
    have hrun := x.run_on args leases db (rfl : stmt.call = db.calls.length)
    have hclose (outcome : Except CallError Value) (db' : Database) :
        (mergeRelease outcome ((Scripted.driver.close stmt).asCall.on db').1,
            ((Scripted.driver.close stmt).asCall.on db').2) =
          (mergeRelease outcome stmt.script.closeOutcome,
            db'.update db.calls.length fun r => { r with closed := true }) := by
      rw [Action.on_asCall, Scripted.close_on, Script.closeOutcome]
      cases stmt.script.closeError <;> rfl
    change ((x.run Scripted.driver args leases stmt).thenRelease
      (Scripted.driver.close stmt).asCall).on (db.begun x.callString) = _
    rw [Action.on_thenRelease, hclose, hrun, Database.returned_update, Database.recorded_update]
    rfl
  · rfl

def record? (s : Script) : Option CallRecord :=
  match s.prepareError with
  | some _ => none
  | none => some (x.record args leases s)

theorem settles_execute (db : Database) :
    db.Settles (x.record? args leases (db.script x.callString)).toList
      ((x.execute Scripted.driver args leases).on db).2 := by
  rw [execute_on, record?]
  rcases (db.script x.callString).prepareError with _ | e
  · exact (db.settles_recorded _).trans (Database.settles_returned _ _)
  · exact .refl db

theorem sameSetup_execute (db : Database) :
    db.SameSetup ((x.execute Scripted.driver args leases).on db).2 := by
  rw [execute_on]
  rcases (db.script x.callString).prepareError with _ | e
  · exact (db.sameSetup_recorded _).trans (Database.sameSetup_returned _ _)
  · exact .refl db

/-- An invocation makes its arrays, executes the call unless one is refused, and releases
what was made. -/
theorem invoke_on (d : Driver) (db : Database) :
    (x.invoke d args).on db =
      match db.run (ArrayLease.make d args x.arraySlots) with
      | ((leases, none), db₁) =>
        let executed := (x.execute d args leases).on db₁
        let released := executed.2.run (ArrayLease.releaseAll d leases)
        ((mergeRelease executed.1 (CallError.ofFailures released.1)).mapError x.wrap, released.2)
      | ((leases, some (_, e)), db₁) =>
        let released := db₁.run (ArrayLease.releaseAll d leases)
        (.error (x.wrap (e.withSuppressed released.1)), released.2) := by
  rw [invoke, Action.on_adapt, Action.on_bind, ArrayLease.create_on]
  rcases db.run (ArrayLease.make d args x.arraySlots) with ⟨⟨leases, _ | ⟨i, e⟩⟩, db₁⟩
  · simp only [Action.on_thenRelease, ArrayLease.close_run]
  · rfl

theorem sameSetup_invoke (db : Database) :
    db.SameSetup ((x.invoke Scripted.driver args).on db).2 := by
  have hm := (ArrayLease.making_make Scripted.driver args x.arraySlots db).numbered.setup
  rw [invoke_on]
  rcases hr : db.run (ArrayLease.make Scripted.driver args x.arraySlots) with
    ⟨⟨leases, _ | ⟨i, e⟩⟩, db₁⟩ <;> rw [hr] at hm
  · exact hm.trans ((x.sameSetup_execute args leases db₁).trans
      (ArrayLease.sameSetup_releaseAll leases _))
  · exact hm.trans (ArrayLease.sameSetup_releaseAll leases _)

/-- The record that an invocation adds, if no argument array is refused. -/
def invocationRecord? (db : Database) : Option CallRecord :=
  match (db.run (ArrayLease.make Scripted.driver args x.arraySlots)).1 with
  | (_, some _) => none
  | (leases, none) => x.record? args leases (db.script x.callString)

/-- An invocation adds its record, and only arrays that have been released once. -/
theorem settles_invoke (db : Database) :
    db.Settles (x.invocationRecord? args db).toList
      ((x.invoke Scripted.driver args).on db).2 := by
  have hm := (ArrayLease.making_make Scripted.driver args x.arraySlots db).numbered
  rw [invoke_on, invocationRecord?]
  rcases hr : db.run (ArrayLease.make Scripted.driver args x.arraySlots) with
    ⟨⟨leases, _ | ⟨i, e⟩⟩, db₁⟩ <;> rw [hr] at hm
  · have hx := x.settles_execute args leases db₁
    rw [hm.setup.script] at hx
    exact hm.settles hx
  · exact hm.settles (.refl db₁)

theorem eq_record_of_mem {db : Database} {r : CallRecord}
    (h : r ∈ x.invocationRecord? args db) :
    ∃ leases db', ArrayLease.Making Scripted.driver args x.arraySlots db leases none db' ∧
      r = x.record args leases (db.script x.callString) := by
  have hm := ArrayLease.making_make Scripted.driver args x.arraySlots db
  unfold invocationRecord? at h
  split at h
  · cases h
  · rename_i leases hl
    rw [hl] at hm
    unfold record? at h
    split at h
    · cases h
    · exact ⟨leases, _, hm, (Option.some.inj h).symm⟩

end Descriptor

end ProcCall
