import ProcCall.Proofs.Call.Binding
import ProcCall.Proofs.Call.Creation
import ProcCall.Proofs.Call.Extraction
import ProcCall.Proofs.Failures

/-! # Failures of the steps

Making an array, binding, registering, executing and reading fail at once or not at all:
only the releases that follow can add failures. None of these failures names the call that it
belongs to.
-/

namespace ProcCall

open ProcCall.Action (unwrapped_pure unwrapped_asCall unwrapped_ofExcept)

variable (d : Driver) (stmt : Statement)

theorem ArrayLease.Making.fault {args : List Argument} {slots : List ArraySlot}
    {db db' : Database} {leases : List ArrayLease} {refusal : Option (Nat × CallError)}
    (h : Making d args slots db leases refusal db') :
    ∀ r ∈ refusal, ∃ f, r.2 = .fault f ∧ f.isWrapped = false := by
  induction h with
  | done db => exact nofun
  | skipped _ _ ih => exact ih
  | misshaped _ =>
    rintro r ⟨⟩
    exact ⟨_, rfl, rfl⟩
  | failed _ _ =>
    rintro r ⟨⟩
    exact ⟨_, rfl, rfl⟩
  | made _ _ _ ih => exact ih

namespace Binder

variable (b : Binder)

theorem unwrapped_bindArgument (i : Nat) (a : Argument) :
    (b.bindArgument d stmt i a).Unwrapped := by
  unfold bindArgument
  split
  · exact unwrapped_pure _
  · exact unwrapped_asCall _
  · exact Action.unwrapped_fault rfl

theorem unwrapped_bindArray (i : Nat) (array : ArrayHandle) :
    (b.bindArray d stmt i array).Unwrapped := by
  unfold bindArray
  split
  · exact unwrapped_pure _
  · exact unwrapped_asCall _

theorem unwrapped_bindEach {step : Nat → Argument → Action CallError Unit}
    (h : ∀ i a, (step i a).Unwrapped) (i : Nat) (args : List Argument) :
    (bindEach step i args).Unwrapped := by
  induction args generalizing i with
  | nil => exact unwrapped_pure _
  | cons a rest ih => exact (h i a).bind fun _ => ih (i + 1)

theorem unwrapped_bind (args : List Argument) (leases : List ArrayLease) :
    (b.bind d stmt args leases).Unwrapped := by
  rw [bind_eq]
  refine unwrapped_bindEach (fun i a => ?_) 0 args
  unfold bindThrough
  split
  · exact b.unwrapped_bindArray d stmt i _
  · exact b.unwrapped_bindArgument d stmt i a

end Binder

namespace Registrar

variable (r : Registrar)

theorem unwrapped_register : (r.register d stmt).Unwrapped := by
  unfold register
  split
  · exact unwrapped_asCall _
  · exact unwrapped_pure _

theorem unwrapped_require : r.require.Unwrapped := by
  unfold require
  split
  · exact unwrapped_pure _
  · exact Action.unwrapped_fault rfl

theorem unwrapped_coerced (kind : ScalarKind) (v : Value) : Unwrapped (coerced kind v) := by
  unfold coerced
  split
  · exact unwrapped_ok _
  · exact unwrapped_fault rfl

theorem unwrapped_readScalar (kind : ScalarKind) : (r.readScalar d stmt kind).Unwrapped := by
  refine r.unwrapped_require.bind fun (slot, t) => Action.unwrapped_get.bind fun db => ?_
  dsimp only
  split
  · exact (unwrapped_asCall _).bind fun raw => unwrapped_ofExcept (unwrapped_coerced kind raw)
  · exact (unwrapped_asCall _).bind fun raw => unwrapped_ofExcept (unwrapped_coerced kind raw)

theorem unwrapped_readArray : (r.readArray d stmt).Unwrapped :=
  r.unwrapped_require.bind fun _ => unwrapped_asCall _

end Registrar

namespace Extractor

open Registrar (unwrapped_coerced)

theorem unwrapped_rowsRead {α : Type} {use : List Row → Except CallError α}
    (hu : ∀ rows, Unwrapped (use rows)) (read : List Row × Option BackendError) :
    Unwrapped (rowsRead read use) := by
  unfold rowsRead
  split
  · exact hu _
  · exact unwrapped_fault rfl

theorem unwrapped_discard (policy : VoidPolicy) (rows : List Row) :
    Unwrapped (discard policy rows) := by
  unfold discard
  split
  · exact unwrapped_fault rfl
  · exact unwrapped_ok _

theorem unwrapped_singleValue (kind : ScalarKind) (rows : List Row) :
    Unwrapped (singleValue kind rows) := by
  unfold singleValue
  split
  · exact unwrapped_coerced kind _
  · exact unwrapped_fault rfl

theorem unwrapped_mapFrom {map : Row → Nat → Except CallError Value}
    (hm : ∀ row i, Unwrapped (map row i)) (i : Nat) (rows : List Row) :
    Unwrapped (mapFrom map i rows) := by
  induction rows generalizing i with
  | nil => exact unwrapped_ok _
  | cons row rest ih => exact (hm row i).bind fun v => (ih (i + 1)).bind fun vs => unwrapped_ok _

theorem unwrapped_collect {map : Row → Nat → Except CallError Value}
    (hm : ∀ row i, Unwrapped (map row i)) (read : List Row × Option BackendError) :
    Unwrapped (collect map read) := by
  refine (unwrapped_mapFrom hm 0 read.1).bind fun values => ?_
  split
  · exact unwrapped_fault rfl
  · exact unwrapped_ok _

theorem unwrapped_convertElements (handle : ArrayHandle) (declared : ArrayElement) :
    Unwrapped (convertElements d handle declared) := by
  unfold convertElements
  dsimp only
  split
  · exact unwrapped_fault rfl
  · split
    · exact unwrapped_fault rfl
    · split
      · exact unwrapped_ok _
      · split
        · exact unwrapped_fault rfl
        · exact unwrapped_ok _

theorem unwrapped_onlyArray (declared : ArrayElement) (handle : ArrayHandle)
    (read : List Row × Option BackendError) : Unwrapped (onlyArray d declared handle read) := by
  unfold onlyArray
  split
  · exact unwrapped_convertElements d handle declared
  · exact unwrapped_rowsRead (fun _ => unwrapped_fault rfl) _

theorem unwrapped_start (x : Extractor) : (x.start d stmt).Unwrapped := by
  have hl : (launch stmt d).Unwrapped := by
    refine (unwrapped_asCall _).bind fun hasRows => ?_
    split
    · exact unwrapped_asCall _
    · exact unwrapped_pure _
  unfold start
  cases x.fetchSize? with
  | none => exact hl
  | some n => exact (unwrapped_asCall _).bind fun _ => hl

theorem unwrapped_listRows (out : Registrar) (rows : Option RowSet) :
    (listRows d stmt out rows).Unwrapped := by
  cases rows with
  | some rows => exact unwrapped_pure _
  | none => exact out.unwrapped_require.bind fun _ => unwrapped_asCall _

variable (out : Registrar) (args : List Argument) (rows : Option RowSet)

theorem unwrapped_listed {map : Row → Nat → Except CallError Value}
    (hm : ∀ row i, Unwrapped (map row i)) :
    Action.Unwrapped (do
      let rows ← listRows d stmt out rows
      Action.ofExcept (collect map (d.drain rows))) :=
  (unwrapped_listRows d stmt out rows).bind fun _ => unwrapped_ofExcept (unwrapped_collect hm _)

theorem unwrapped_result (x : Extractor) (hx : ∀ declared, x ≠ .array declared) :
    (x.result d stmt out args rows).Unwrapped := by
  cases x with
  | void policy =>
    cases rows with
    | none => exact unwrapped_pure _
    | some rows => exact unwrapped_ofExcept (unwrapped_rowsRead (unwrapped_discard policy) _)
  | scalar kind =>
    cases rows with
    | none => exact out.unwrapped_readScalar d stmt kind
    | some rows => exact unwrapped_ofExcept (unwrapped_rowsRead (unwrapped_singleValue kind) _)
  | scalarList kind n =>
    exact unwrapped_listed d stmt out rows fun row _ => unwrapped_coerced kind row.first
  | mappedList mapper n =>
    rw [result]
    split
    · exact Action.unwrapped_fault rfl
    · exact unwrapped_listed d stmt out rows fun row i => unwrapped_mapError _
  | array declared => exact absurd rfl (hx declared)

theorem unwrapped_read (x : Extractor) (db : Database) :
    Unwrapped (db.run (x.read d stmt out args rows)).1.1 := by
  cases x with
  | array declared =>
    cases rows with
    | some rows =>
      simp only [read, Database.run_bind, Action.run_run]
      rcases (d.nextArray rows).on db with ⟨_ | ⟨_ | handle, rest⟩, db'⟩
      · exact unwrapped_fault rfl
      · exact unwrapped_fault rfl
      · exact unwrapped_onlyArray d declared handle _
    | none =>
      have hr := out.unwrapped_readArray d stmt db
      simp only [read, Database.run_bind, Action.run_run]
      rcases ho : (out.readArray d stmt).on db with ⟨e | _ | handle, db'⟩ <;> rw [ho] at hr
      · exact hr.error
      · exact unwrapped_ok _
      · exact unwrapped_convertElements d handle declared
  | void policy => exact unwrapped_result d stmt out args rows (.void policy) (by simp) db
  | scalar kind => exact unwrapped_result d stmt out args rows (.scalar kind) (by simp) db
  | scalarList kind n =>
    exact unwrapped_result d stmt out args rows (.scalarList kind n) (by simp) db
  | mappedList mapper n =>
    exact unwrapped_result d stmt out args rows (.mappedList mapper n) (by simp) db

theorem unwrapped_releaseResult (handle : Option ArrayHandle) :
    (releaseResult d handle).Unwrapped := by
  cases handle with
  | none => exact unwrapped_pure ()
  | some handle => exact unwrapped_asCall _

end Extractor

/-! ## Executions -/

section

variable {d} {P : Except CallError Value → Prop} {α : Type} {args : List Argument}
  {leases : List ArrayLease}

theorem kept_bind (once : ∀ o, Unwrapped o → P o) {a : Action CallError α}
    {f : α → Action CallError Value} (ha : a.Unwrapped) (hf : ∀ v db, P ((f v).on db).1)
    (db : Database) : P ((a >>= f).on db).1 := by
  have ha := ha db
  rw [Action.on_bind]
  rcases ho : a.on db with ⟨e | v, db'⟩ <;> rw [ho] at ha
  · exact once _ ha.error
  · exact hf v db'

/-- What holds of every step that fails at once, and still after a release that fails at once,
holds of the execution of a call. -/
theorem Descriptor.execute_induction (once : ∀ o, Unwrapped o → P o)
    (release : ∀ o r, P o → Unwrapped r → P (mergeRelease o r)) (x : Descriptor) (db : Database) :
    P ((x.execute d args leases).on db).1 := by
  refine kept_bind once (Action.unwrapped_asCall _) (fun stmt db => ?_) db
  refine release _ _ ?_ (Action.unwrapped_asCall _ _)
  refine kept_bind once (x.inputs.unwrapped_bind d stmt args leases) (fun _ db => ?_) db
  refine kept_bind once (x.output.unwrapped_register d stmt) (fun _ db => ?_) db
  refine kept_bind once (Extractor.unwrapped_start d stmt x.extractor) (fun rows db => ?_) db
  rw [Extractor.result_on]
  refine release _ _ (once _ (Extractor.unwrapped_read d stmt x.output args rows x.extractor db)) ?_
  exact Extractor.unwrapped_releaseResult d _ _

end

end ProcCall
