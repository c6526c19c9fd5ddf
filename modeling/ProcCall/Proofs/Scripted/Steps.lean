import ProcCall.Database.Scripted
import ProcCall.Proofs.Running

/-! # Steps of the scripted driver

Each step changes the record of its own call or the records of the arrays, and its
outcome follows from the script and the planned failures. The equations below say so,
one for each operation of the driver.
-/

namespace ProcCall

def ArrayRecord.released (r : ArrayRecord) : ArrayRecord :=
  { r with freeCount := r.freeCount + 1 }

namespace Database

theorem modify_middle {α : Type} (f : α → α) (a : α) (xs ys : List α) :
    (xs ++ a :: ys).modify xs.length f = xs ++ f a :: ys :=
  List.modifyTailIdx_add _ 0 xs (a :: ys)

theorem update_update (db : Database) (i : Nat) (f g : CallRecord → CallRecord) :
    (db.update i f).update i g = db.update i (g ∘ f) := by
  simp [update, List.modify_modify_eq]

theorem update_id (db : Database) (i : Nat) : db.update i id = db := by
  simp [update]

theorem record?_update (db : Database) (i : Nat) (f : CallRecord → CallRecord) :
    (db.update i f).record? i = (db.record? i).map f := by
  simp [record?, update]

def freed (db : Database) (i : Nat) : Database :=
  { db with arrays := db.arrays.modify i ArrayRecord.released }

def freeOutcome (db : Database) (i : Nat) : Except BackendError Unit :=
  match db.freeFailures.lookup i with
  | some text => .error ⟨.other, text⟩
  | none => .ok ()

theorem freeOutcome_eq_error {db : Database} {i : Nat} {e : BackendError} :
    db.freeOutcome i = .error e ↔
      ∃ text, db.freeFailures.lookup i = some text ∧ e = ⟨.other, text⟩ := by
  rw [freeOutcome]
  rcases db.freeFailures.lookup i with _ | text
  · simp
  · simp [eq_comm]

def tracked (db : Database) (data : ArrayData) (byClient : Bool) : Database :=
  { db with arrays := db.arrays ++ [{ data := data, byClient := byClient }] }

def begun (db : Database) (call : String) : Database :=
  { db with calls := db.calls ++ [{ call := call }] }

@[simp] theorem freed_calls (db : Database) (i : Nat) : (db.freed i).calls = db.calls := rfl

@[simp] theorem tracked_calls (db : Database) (data : ArrayData) (byClient : Bool) :
    (db.tracked data byClient).calls = db.calls := rfl

@[simp] theorem tracked_arrays (db : Database) (data : ArrayData) (byClient : Bool) :
    (db.tracked data byClient).arrays = db.arrays ++ [{ data := data, byClient := byClient }] :=
  rfl

/-- The calls are followed by these records, and the arrays by some that were released
once. -/
structure Settles (db : Database) (records : List CallRecord) (db' : Database) : Prop where
  calls : db'.calls = db.calls ++ records
  arrays : ∃ new, (∀ a ∈ new, a.freeCount = 1) ∧ db'.arrays = db.arrays ++ new

theorem Settles.refl (db : Database) : Settles db [] db := ⟨by simp, [], by simp, by simp⟩

theorem Settles.trans {db₁ db₂ db₃ : Database} {records more : List CallRecord}
    (h : Settles db₁ records db₂) (h' : Settles db₂ more db₃) :
    Settles db₁ (records ++ more) db₃ := by
  obtain ⟨hc, new, hn, ha⟩ := h
  obtain ⟨hc', new', hn', ha'⟩ := h'
  refine ⟨by rw [hc', hc, List.append_assoc], new ++ new', ?_,
    by rw [ha', ha, List.append_assoc]⟩
  intro a hm
  exact (List.mem_append.mp hm).elim (hn a) (hn' a)

theorem Settles.length_arrays {db db' : Database} {records : List CallRecord}
    (h : Settles db records db') : db.arrays.length ≤ db'.arrays.length := by
  obtain ⟨_, new, _, ha⟩ := h
  rw [ha, List.length_append]
  exact Nat.le_add_right _ _

/-- What a database was set up with, which no step changes. -/
structure SameSetup (db db' : Database) : Prop where
  scripts : db'.scripts = db.scripts
  freeFailures : db'.freeFailures = db.freeFailures
  arrayCreationFailure : db'.arrayCreationFailure = db.arrayCreationFailure
  untyped : db'.untyped = db.untyped

theorem SameSetup.refl (db : Database) : db.SameSetup db := ⟨rfl, rfl, rfl, rfl⟩

theorem SameSetup.trans {db₁ db₂ db₃ : Database} (h : db₁.SameSetup db₂) (h' : db₂.SameSetup db₃) :
    db₁.SameSetup db₃ :=
  ⟨h'.scripts.trans h.scripts, h'.freeFailures.trans h.freeFailures,
    h'.arrayCreationFailure.trans h.arrayCreationFailure, h'.untyped.trans h.untyped⟩

theorem script_congr {db db' : Database} (h : db.scripts = db'.scripts) (call : String) :
    db.script call = db'.script call := by
  rw [script, h, script]

theorem SameSetup.script {db db' : Database} (h : db.SameSetup db') (call : String) :
    db'.script call = db.script call :=
  script_congr h.scripts call

def recorded (db : Database) (r : CallRecord) : Database := { db with calls := db.calls ++ [r] }

theorem recorded_update (db : Database) (r : CallRecord) (f : CallRecord → CallRecord) :
    (db.recorded r).update db.calls.length f = db.recorded (f r) :=
  congrArg (fun calls => { db with calls }) (modify_middle f r db.calls [])

theorem begun_update (db : Database) (call : String) (f : CallRecord → CallRecord) :
    (db.begun call).update db.calls.length f = db.recorded (f { call := call }) :=
  db.recorded_update { call := call } f

theorem record?_recorded (db : Database) (r : CallRecord) :
    (db.recorded r).record? db.calls.length = some r := by
  simp [record?, recorded]

theorem sameSetup_recorded (db : Database) (r : CallRecord) : db.SameSetup (db.recorded r) :=
  ⟨rfl, rfl, rfl, rfl⟩

theorem settles_recorded (db : Database) (r : CallRecord) : db.Settles [r] (db.recorded r) :=
  ⟨rfl, [], by simp, (List.append_nil _).symm⟩

def asked (db : Database) : Database :=
  { db with clientArraysCreated := db.clientArraysCreated + 1 }

@[simp] theorem asked_arrays (db : Database) : db.asked.arrays = db.arrays := rfl

theorem sameSetup_asked (db : Database) : db.SameSetup db.asked := ⟨rfl, rfl, rfl, rfl⟩

theorem sameSetup_tracked (db : Database) (data : ArrayData) (byClient : Bool) :
    db.SameSetup (db.tracked data byClient) := ⟨rfl, rfl, rfl, rfl⟩

theorem sameSetup_freed (db : Database) (i : Nat) : db.SameSetup (db.freed i) :=
  ⟨rfl, rfl, rfl, rfl⟩

def createOutcome (db : Database) : Except BackendError Unit :=
  match db.arrayCreationFailure.filter fun f => f.1 = db.clientArraysCreated with
  | some (_, text) => .error ⟨.other, text⟩
  | none => .ok ()

theorem createOutcome_eq_error {db : Database} {e : BackendError} :
    db.createOutcome = .error e ↔
      ∃ text, db.arrayCreationFailure = some (db.clientArraysCreated, text) ∧
        e = ⟨.other, text⟩ := by
  rw [createOutcome]
  rcases db.arrayCreationFailure with _ | ⟨n, text⟩
  · simp
  · by_cases hn : n = db.clientArraysCreated
    · simp [Option.filter, hn, eq_comm]
    · simp [Option.filter, hn]

end Database

namespace Scripted

open ProcCall.Action

variable (db : Database) (stmt : Statement)

theorem prepare_on (call : String) :
    (driver.prepare call).on db =
      match (db.script call).prepareError with
      | some e => (.error e, db)
      | none => (.ok ⟨db.calls.length, db.script call⟩, db.begun call) := by
  change (prepare call).on db = _
  simp only [prepare, on_bind, on_get]
  cases (db.script call).prepareError <;> rfl

def clientData (typeName : String) (elements : List Value) : ArrayData :=
  ⟨typeName, ⟨elementKind elements, true⟩, elements⟩

theorem createArray_on (typeName : String) (elements : List Value) :
    (driver.createArray typeName elements).on db =
      match db.createOutcome with
      | .error e => (.error e, db.asked)
      | .ok () =>
        (.ok ⟨db.arrays.length, clientData typeName elements, true⟩,
          db.asked.tracked (clientData typeName elements) true) := by
  change (createArray typeName elements).on db = _
  simp only [createArray, on_bind, on_get, on_set, Database.createOutcome]
  cases db.arrayCreationFailure.filter fun f => f.1 = db.clientArraysCreated <;> rfl

section Creation

variable {typeName : String} {elements : List Value} {db db' : Database}

theorem eq_of_createArray_ok {array : ArrayHandle}
    (h : (driver.createArray typeName elements).on db = (.ok array, db')) :
    array = ⟨db.arrays.length, clientData typeName elements, true⟩ ∧
      db' = db.asked.tracked (clientData typeName elements) true := by
  rw [createArray_on] at h
  split at h
  · cases h
  · cases h
    exact ⟨rfl, rfl⟩

theorem eq_of_createArray_error {e : BackendError}
    (h : (driver.createArray typeName elements).on db = (.error e, db')) :
    db.createOutcome = .error e ∧ db' = db.asked := by
  rw [createArray_on] at h
  split at h
  · rename_i he
    cases h
    exact ⟨he, rfl⟩
  · cases h

end Creation

theorem bind_on (slot : Slot) (b : Binding) :
    (bind stmt slot b).on db =
      if slot = .index 0 then (.error ⟨.query, "parameter index 0 is out of range"⟩, db)
      else
        (.ok (),
          db.update stmt.call fun r => { r with bindings := r.bindings ++ [(slot, b)] }) := by
  unfold bind
  split <;> rfl

theorem register_on (slot : Slot) (t : SqlType) :
    (driver.register stmt slot t).on db =
      (.ok (),
        db.update stmt.call fun r => { r with registered := r.registered ++ [(slot, t)] }) := rfl

theorem setFetchSize_on (rows : UInt32) :
    (driver.setFetchSize stmt rows).on db =
      (.ok (), db.update stmt.call fun r => { r with fetchSize := some rows }) := rfl

theorem execute_on :
    (driver.execute stmt).on db =
      (match stmt.script.error with
        | some e => .error e
        | none => .ok stmt.script.hasRows,
      db.update stmt.call fun r => { r with executed := true }) := by
  change (execute stmt).on db = _
  simp only [execute, on_bind, on_modify]
  cases stmt.script.error <;> rfl

theorem resultSet_on :
    (driver.resultSet stmt).on db =
      if (db.record? stmt.call).any CallRecord.rowsTaken || !stmt.script.hasRows then (.ok none, db)
      else
        (.ok (some { rows := stmt.script.rows.getD [], arrays := stmt.script.resultArrays }),
          db.update stmt.call fun r => { r with rowsTaken := true }) := by
  change (resultSet stmt).on db = _
  rw [resultSet, on_bind, on_get]
  dsimp only
  split <;> rfl

theorem close_on :
    (driver.close stmt).on db =
      (match stmt.script.closeError with
        | some e => .error e
        | none => .ok (),
      db.update stmt.call fun r => { r with closed := true }) := by
  change (close stmt).on db = _
  simp only [close, on_bind, on_modify]
  cases stmt.script.closeError <;> rfl

theorem free_on {array : ArrayHandle} (h : array.id < db.arrays.length) :
    (driver.free array).on db = (db.freeOutcome array.id, db.freed array.id) := by
  change (free array).on db = _
  simp only [free, on_bind, on_get, if_pos h, on_set, Database.freeOutcome]
  cases db.freeFailures.lookup array.id <;> rfl

theorem free_on_missing {array : ArrayHandle} (h : ¬ array.id < db.arrays.length) :
    (driver.free array).on db = (.error ⟨.notFound, "array " ++ toString array.id⟩, db) := by
  change (free array).on db = _
  rw [free, on_bind, on_get]
  dsimp only
  rw [if_neg h]
  rfl

theorem free_snd (array : ArrayHandle) :
    ((driver.free array).on db).2 = db.freed array.id := by
  by_cases h : array.id < db.arrays.length
  · rw [free_on db h]
  · rw [free_on_missing db h, Database.freed, List.modify_eq_self (Nat.le_of_not_lt h)]

theorem free_update (array : ArrayHandle) (i : Nat) (f : CallRecord → CallRecord) :
    (driver.free array).on (db.update i f) =
      (((driver.free array).on db).1, ((driver.free array).on db).2.update i f) := by
  by_cases h : array.id < db.arrays.length
  · rw [free_on db h, free_on (db.update i f) h]
    rfl
  · rw [free_on_missing db h, free_on_missing (db.update i f) h]

theorem nextArray_on (rows : RowSet) :
    (driver.nextArray rows).on db =
      match rows.arrays with
      | [] => (.ok (none, rows), db)
      | data :: rest =>
        (.ok (some ⟨db.arrays.length, data, false⟩, { rows with arrays := rest }),
          db.tracked data false) := by
  change (nextArray rows).on db = _
  unfold nextArray
  cases rows.arrays <;> rfl

end Scripted

end ProcCall
