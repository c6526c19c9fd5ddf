import ProcCall.Call.Extractor
import ProcCall.Proofs.Scripted.Steps

/-! # Reading results

A result is read and then the array it came from, if any, is released. On the scripted
driver starting a call changes only its record, and the rows it hands out are those of
its script.
-/

namespace ProcCall.Extractor

section Reading

variable (d : Driver) (stmt : Statement) (out : Registrar) (args : List Argument)

/-- The elements of an array that should be the only row, given the rows after it. -/
def onlyArray (declared : ArrayElement) (handle : ArrayHandle) :
    List Row × Option BackendError → Except CallError Value
  | ([], none) => convertElements d handle declared
  | read => rowsRead read fun more => .error (.fault (.incorrectResultSize 1 (1 + more.length)))

/-- Reads the result of an executed call and gives the array that is to be released. -/
def read (rows : Option RowSet) :
    Extractor → StateM Database (Except CallError Value × Option ArrayHandle)
  | array declared =>
    match rows with
    | some rows => do
      match ← (d.nextArray rows).run with
      | .error e => pure (.error (.backend e), none)
      | .ok (none, _) => pure (.error (.fault (.incorrectResultSize 1 0)), none)
      | .ok (some handle, rest) => pure (onlyArray d declared handle (d.drain rest), some handle)
    | none => do
      match ← (out.readArray d stmt).run with
      | .error e => pure (.error e, none)
      | .ok none => pure (.ok .null, none)
      | .ok (some handle) => pure (convertElements d handle declared, some handle)
  | x => do pure (← (x.result d stmt out args rows).run, none)

def releaseResult : Option ArrayHandle → Action CallError Unit
  | none => pure ()
  | some handle => (d.free handle).asCall

theorem mergeRelease_ok {α : Type} (o : Except CallError α) : mergeRelease o (.ok ()) = o := by
  cases o <;> rfl

theorem mergeRelease_eq_ok {α : Type} {o : Except CallError α} {r : Except CallError Unit} {v : α} :
    mergeRelease o r = .ok v ↔ o = .ok v ∧ r = .ok () := by
  rcases o with e | w <;> rcases r with late | ⟨⟩ <;> simp [mergeRelease]

theorem mergeRelease_eq_error {α : Type} {o : Except CallError α} {r : Except CallError Unit}
    {e : CallError} (h : mergeRelease o r = .error e) :
    (∃ p, o = .error p ∧ e.primary = p.primary) ∨ r = .error e := by
  rcases o with p | v <;> rcases r with late | ⟨⟩
  · obtain rfl := Except.error.inj h
    exact .inl ⟨p, rfl, by cases p <;> rfl⟩
  · obtain rfl := Except.error.inj h
    exact .inl ⟨p, rfl, rfl⟩
  · exact .inr (congrArg _ (Except.error.inj h))
  · cases h

theorem exists_mergeRelease_fault {α : Type} (f : Fault) (r : Except CallError Unit) :
    ∃ e, mergeRelease (.error (.fault f) : Except CallError α) r = .error e ∧
      e.primary = .fault f := by
  rcases r with late | ⟨⟩
  · exact ⟨_, rfl, rfl⟩
  · exact ⟨_, rfl, rfl⟩

theorem result_on (x : Extractor) (rows : Option RowSet) (db : Database) :
    (x.result d stmt out args rows).on db =
      match db.run (x.read d stmt out args rows) with
      | ((outcome, handle), db') =>
        (mergeRelease outcome ((releaseResult d handle).on db').1,
          ((releaseResult d handle).on db').2) := by
  cases x with
  | array declared =>
    cases rows with
    | some rows =>
      simp only [result, read, singleArray, Action.on_bind, Action.on_asCall, Database.run_bind,
        Action.run_run]
      rcases (d.nextArray rows).on db with ⟨_ | ⟨_ | handle, rest⟩, db'⟩
      · rfl
      · rfl
      · rcases hd : d.drain rest with ⟨_ | ⟨row, more⟩, _ | e⟩ <;>
          simp only [mapError_ok, hd] <;>
          rcases hf : (d.free handle).on db' with ⟨_ | _, _⟩ <;>
          simp [onlyArray, rowsRead, releaseResult, materialize, mergeRelease, hf]
    | none =>
      simp only [result, read, Action.on_bind, Database.run_bind, Action.run_run]
      rcases (out.readArray d stmt).on db with ⟨_ | _ | handle, db'⟩ <;> rfl
  | _ =>
    simp only [read, Database.run_bind, Action.run_run, Database.run_pure, releaseResult,
      Action.on_pure, mergeRelease_ok]

end Reading

section Scripted

variable (stmt : Statement) (out : Registrar) (args : List Argument)

def started (s : Script) : Except CallError (Option RowSet) :=
  match s.error with
  | some e => .error (.backend e)
  | none =>
    .ok (if s.hasRows then some { rows := s.rows.getD [], arrays := s.resultArrays } else none)

def startRecord (x : Extractor) (s : Script) (r : CallRecord) : CallRecord :=
  { r with
    fetchSize := x.fetchSize?.or r.fetchSize
    executed := true
    rowsTaken := r.rowsTaken || (s.error.isNone && s.hasRows) }

/-- The part of starting a call that comes after the fetch size. -/
def launch (d : Driver) : Action CallError (Option RowSet) := do
  let hasRows ← (d.execute stmt).asCall
  if hasRows then (d.resultSet stmt).asCall else pure none

theorem launch_on {db : Database}
    (ht : stmt.script.hasRows = true → (db.record? stmt.call).any CallRecord.rowsTaken = false) :
    (launch stmt Scripted.driver).on db =
      (started stmt.script, db.update stmt.call fun r =>
        { r with
          executed := true
          rowsTaken := r.rowsTaken || (stmt.script.error.isNone && stmt.script.hasRows) }) := by
  rw [launch, Action.on_bind, Action.on_asCall, Scripted.execute_on, started]
  rcases stmt.script.error with _ | e
  · rcases hr : stmt.script.hasRows
    · simp
    · have ht' : ((db.update stmt.call fun r => { r with executed := true }).record?
          stmt.call).any CallRecord.rowsTaken = false := by
        rw [Database.record?_update, Option.any_map]
        exact ht hr
      simp [Scripted.resultSet_on, ht', hr, Database.update_update, Function.comp_def]
  · simp

theorem start_on (x : Extractor) {db : Database}
    (ht : stmt.script.hasRows = true → (db.record? stmt.call).any CallRecord.rowsTaken = false) :
    (x.start Scripted.driver stmt).on db =
      (started stmt.script, db.update stmt.call (x.startRecord stmt.script)) := by
  unfold start startRecord
  rcases x.fetchSize? with _ | n
  · exact launch_on stmt ht
  · rw [Action.on_bind, Action.on_asCall, Scripted.setFetchSize_on]
    refine (launch_on stmt ?_).trans ?_
    · rwa [Database.record?_update, Option.any_map]
    · simp [Database.update_update, Function.comp_def]

end Scripted

end ProcCall.Extractor
