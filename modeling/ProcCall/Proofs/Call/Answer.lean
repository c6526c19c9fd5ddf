import ProcCall.Proofs.Call.Extraction
import ProcCall.Proofs.Scripted.Reading

/-! # The answer of a call

What an executed call gives follows from its script, from what was bound to the output
slot and from the row mapper among the arguments. Of the database it does not depend on
anything else, and all that it changes is that the array the result came in has been
handed out and released.
-/

namespace ProcCall

namespace Database

def handed (db : Database) : Option ArrayData → Database
  | none => db
  | some data => db.tracked data false

def returned (db : Database) (array : Option ArrayData) : Database :=
  match array with
  | none => db
  | some _ => (db.handed array).freed db.arrays.length

def returnOutcome (db : Database) : Option ArrayData → Except CallError Unit
  | none => .ok ()
  | some _ => (db.freeOutcome db.arrays.length).mapError CallError.backend

theorem returned_update (db : Database) (array : Option ArrayData) (i : Nat)
    (f : CallRecord → CallRecord) :
    (db.returned array).update i f = (db.update i f).returned array := by
  cases array <;> rfl

theorem sameSetup_returned (db : Database) (array : Option ArrayData) :
    db.SameSetup (db.returned array) := by
  cases array <;> exact ⟨rfl, rfl, rfl, rfl⟩

theorem settles_returned (db : Database) (array : Option ArrayData) :
    db.Settles [] (db.returned array) := by
  cases array with
  | none => exact .refl db
  | some data =>
    refine ⟨by simp [returned, handed], [(ArrayRecord.mk data 0 false).released],
      by simp [ArrayRecord.released], ?_⟩
    exact modify_middle _ _ db.arrays []

end Database

namespace Extractor

/-- The rows of a list, from the call or else from the output slot. -/
def answerRows (s : Script) (out : Registrar) : Option RowSet → Except CallError (List Row)
  | some rows => .ok rows.pending
  | none => out.fromSlot fun _ => .ok (s.outRows.getD [])

/-- What an executed call gives, and the array that it comes in. -/
def answer (s : Script) (out : Registrar) (bound : List (Slot × Binding)) (args : List Argument)
    (rows : Option RowSet) : Extractor → Except CallError Value × Option ArrayData
  | void policy =>
    match rows with
    | some rows => (discard policy rows.pending, none)
    | none => (.ok .null, none)
  | scalar kind =>
    match rows with
    | some rows => (singleValue kind rows.pending, none)
    | none =>
      (out.fromSlot fun slot => Registrar.coerced kind (s.outputValue bound slot), none)
  | scalarList kind _ =>
    ((answerRows s out rows).bind fun rows => collect (listed kind) (rows, none), none)
  | mappedList mapper _ =>
    match args[mapper]?.bind Argument.mapper? with
    | none => (.error (.fault (.argumentShape mapper "row mapper")), none)
    | some m => ((answerRows s out rows).bind fun rows => collect (mapped m) (rows, none), none)
  | array declared =>
    match rows with
    | some rows =>
      match rows.arrays with
      | [] => (.error (.fault (.incorrectResultSize 1 0)), none)
      | data :: rest =>
        (onlyArray Scripted.driver declared ⟨0, data, false⟩
          ({ rows with arrays := rest }.pending, none), some data)
    | none =>
      match out.slot?, s.outArray with
      | none, _ => (.error (.fault .noOutParameter), none)
      | some _, none => (.ok .null, none)
      | some _, some data => (convertElements Scripted.driver ⟨0, data, false⟩ declared, some data)

variable {stmt : Statement} {out : Registrar} {args : List Argument} {db : Database}
  {r : CallRecord} {rows : Option RowSet}

theorem collect_on (h : out.RegisteredIn stmt db) (map : Row → Nat → Except CallError Value) :
    (do let rows ← listRows Scripted.driver stmt out rows
        Action.ofExcept (collect map (Scripted.driver.drain rows))).on db =
      ((answerRows stmt.script out rows).bind fun rows => collect map (rows, none), db) := by
  cases rows with
  | some rows =>
    rw [listRows, Action.on_bind_ok (Action.on_pure _ _), Action.on_ofExcept,
      Scripted.drain_pending]
    rfl
  | none =>
    rw [listRows, Action.on_bind, Registrar.readRows_on h, answerRows, Registrar.fromSlot,
      Registrar.fromSlot]
    rcases out.slot? with _ | slot
    · rfl
    · dsimp only
      rw [Action.on_ofExcept, Scripted.drain_pending, RowSet.pending, List.map_nil,
        List.append_nil]
      rfl

theorem plain_result_on (h : out.RegisteredIn stmt db) (hb : db.record? stmt.call = some r)
    (x : Extractor) (hx : ∀ declared, x ≠ .array declared) :
    (x.result Scripted.driver stmt out args rows).on db =
        ((x.answer stmt.script out r.bindings args rows).1, db) ∧
      (x.answer stmt.script out r.bindings args rows).2 = none := by
  cases x with
  | void policy =>
    cases rows with
    | some rows => rw [result, answer, Action.on_ofExcept, Scripted.drain_pending]; exact ⟨rfl, rfl⟩
    | none => exact ⟨rfl, rfl⟩
  | scalar kind =>
    cases rows with
    | some rows => rw [result, answer, Action.on_ofExcept, Scripted.drain_pending]; exact ⟨rfl, rfl⟩
    | none =>
      simp only [result, answer, Registrar.readScalar_on h, Scripted.outputOf_eq hb, and_self]
  | scalarList kind n => exact ⟨collect_on h (listed kind), rfl⟩
  | mappedList mapper n =>
    rw [result, answer]
    rcases args[mapper]?.bind Argument.mapper? with _ | m
    · exact ⟨rfl, rfl⟩
    · exact ⟨collect_on h (mapped m), rfl⟩
  | array declared => exact absurd rfl (hx declared)

theorem read_on (h : out.RegisteredIn stmt db) (hb : db.record? stmt.call = some r)
    (x : Extractor) :
    db.run (x.read Scripted.driver stmt out args rows) =
      (((x.answer stmt.script out r.bindings args rows).1,
        (x.answer stmt.script out r.bindings args rows).2.map fun data =>
          ⟨db.arrays.length, data, false⟩),
        db.handed (x.answer stmt.script out r.bindings args rows).2) := by
  -- Only the result of an array extractor leaves something behind.
  by_cases hx : ∃ declared, x = .array declared
  · obtain ⟨declared, rfl⟩ := hx
    cases rows with
    | some rows =>
      rw [read, answer, Database.run_bind, Action.run_run, Scripted.nextArray_on]
      rcases rows.arrays with _ | ⟨data, rest⟩
      · rfl
      · dsimp only
        rw [Scripted.drain_pending]
        rfl
    | none =>
      rw [read, answer, Database.run_bind, Action.run_run, Registrar.readArray_on h]
      rcases out.slot? with _ | slot
      · rfl
      · cases stmt.script.outArray <;> rfl
  · have hx := not_exists.mp hx
    obtain ⟨ho, ha⟩ := @plain_result_on stmt out args db r rows h hb x hx
    have hread : x.read Scripted.driver stmt out args rows =
        (do pure (← (x.result Scripted.driver stmt out args rows).run, none)) := by
      cases x with
      | array declared => exact absurd rfl (hx declared)
      | _ => rfl
    rw [hread, Database.run_bind, Action.run_run, ho, ha]
    rfl

/-- The result of an executed call is its answer, once the array it came in is released. -/
theorem result_on_answer (h : out.RegisteredIn stmt db) (hb : db.record? stmt.call = some r)
    (x : Extractor) :
    (x.result Scripted.driver stmt out args rows).on db =
      (mergeRelease (x.answer stmt.script out r.bindings args rows).1
          (db.returnOutcome (x.answer stmt.script out r.bindings args rows).2),
        db.returned (x.answer stmt.script out r.bindings args rows).2) := by
  rw [result_on, read_on h hb]
  rcases x.answer stmt.script out r.bindings args rows with ⟨outcome, _ | data⟩
  · rfl
  · have hlt : db.arrays.length < (db.tracked data false).arrays.length := by simp
    dsimp only [Option.map_some, Database.handed, releaseResult]
    rw [Action.on_asCall, Scripted.free_on _ hlt]
    rfl

end Extractor

end ProcCall
