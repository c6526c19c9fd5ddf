import ProcCall.Proofs.Call.Record
import ProcCall.Proofs.Failures

/-! # Where failures come from

On the scripted driver a failure of an invocation comes from the shape of the arguments,
from the result or the row mapper that reads it, or else it is an error that the database
was set up with. The errors of a driver that is misused are not among them.
-/

namespace ProcCall

variable {α β : Type} {P Q : Fault → Prop}

def FailsOnly (P : Fault → Prop) (o : Except CallError α) : Prop := ∀ f ∈ failuresOf o, P f

theorem failsOnly_ok (x : α) : FailsOnly P (.ok x) := nofun

theorem failsOnly_fault {f : Fault} (h : P f) :
    FailsOnly P (.error (.fault f) : Except CallError α) := by
  intro g hg
  obtain rfl := List.mem_singleton.mp hg
  exact h

theorem FailsOnly.imp {o : Except CallError α} (h : FailsOnly P o) (hPQ : ∀ f, P f → Q f) :
    FailsOnly Q o := fun f hf => hPQ f (h f hf)

theorem FailsOnly.bind {o : Except CallError α} {g : α → Except CallError β} (h : FailsOnly P o)
    (hg : ∀ x, o = .ok x → FailsOnly P (g x)) : FailsOnly P (o >>= g) := by
  cases o with
  | error e => exact h
  | ok x => exact hg x rfl

theorem FailsOnly.mergeRelease {o : Except CallError α} {r : Except CallError Unit}
    (h : FailsOnly P o) (hr : FailsOnly P r) : FailsOnly P (mergeRelease o r) := by
  intro f hf
  rw [failuresOf_mergeRelease] at hf
  exact (List.mem_append.mp hf).elim (h f) (hr f)

theorem FailsOnly.withSuppressed {e : CallError} {es : List CallError}
    (h : FailsOnly P (.error e : Except CallError α)) (hs : FailsOnly P (CallError.ofFailures es)) :
    FailsOnly P (.error (e.withSuppressed es) : Except CallError α) := by
  intro f hf
  rw [failuresOf, CallError.flatten_withSuppressed, ← failuresOf_ofFailures] at hf
  exact (List.mem_append.mp hf).elim (h f) (hs f)

theorem FailsOnly.wrap {x : Descriptor} {o : Except CallError α} (h : FailsOnly P o)
    (hw : ∀ f, P f → Q f ∧ Q (x.wrapFault f)) : FailsOnly Q (o.mapError x.wrap) := by
  cases o with
  | ok v => exact failsOnly_ok v
  | error e =>
    intro f hf
    change f ∈ (x.wrap e).flatten at hf
    have he : ∀ g ∈ e.flatten, P g := h
    rw [Descriptor.wrap] at hf
    split at hf
    · obtain ⟨later, hl⟩ := e.flatten_eq_first_cons
      rw [x.flatten_wrapPrimary, hl, List.modifyHead_cons] at hf
      rw [hl] at he
      rcases List.mem_cons.mp hf with rfl | hf
      · exact (hw _ (he _ List.mem_cons_self)).2
      · exact (hw f (he f (List.mem_cons_of_mem _ hf))).1
    · exact (hw f (he f hf)).1

/-! ## Results -/

inductive Fault.OfResult (x : Extractor) (out : Registrar) (args : List Argument) : Fault → Prop
  | size (expected actual : Nat) : OfResult x out args (.incorrectResultSize expected actual)
  | type (expected actual : String) : OfResult x out args (.typeMismatch expected actual)
  | nullElement (i : Nat) : OfResult x out args (.nullElement i)
  | noOutput (h : out.slot? = none) : OfResult x out args .noOutParameter
  | noMapper {i : Nat} {n : Option UInt32} (hx : x = .mappedList i n)
      (ha : args[i]?.bind Argument.mapper? = none) :
      OfResult x out args (.argumentShape i "row mapper")
  | mapper {m : RowMapper} (hm : .mapper m ∈ args) {row : Row} {i : Nat} {e : BackendError}
      (he : m.apply row i = .error e) : OfResult x out args (.backend e)

namespace Extractor

variable {x : Extractor} {s : Script} {out : Registrar} {bound : List (Slot × Binding)}
  {args : List Argument}

theorem failsOnly_coerced (kind : ScalarKind) (v : Value) :
    FailsOnly (Fault.OfResult x out args) (Registrar.coerced kind v) := by
  unfold Registrar.coerced
  split
  · exact failsOnly_ok _
  · exact failsOnly_fault (.type _ _)

theorem failsOnly_discard (policy : VoidPolicy) (rows : List Row) :
    FailsOnly (Fault.OfResult x out args) (discard policy rows) := by
  unfold discard
  split
  · exact failsOnly_fault (.size _ _)
  · exact failsOnly_ok _

theorem failsOnly_singleValue (kind : ScalarKind) (rows : List Row) :
    FailsOnly (Fault.OfResult x out args) (singleValue kind rows) := by
  unfold singleValue
  split
  · exact failsOnly_coerced kind _
  · exact failsOnly_fault (.size _ _)

theorem failsOnly_mapFrom {map : Row → Nat → Except CallError Value}
    (hm : ∀ row i, FailsOnly P (map row i)) (i : Nat) (rows : List Row) :
    FailsOnly P (mapFrom map i rows) := by
  induction rows generalizing i with
  | nil => exact failsOnly_ok _
  | cons row rest ih =>
    exact (hm row i).bind fun v _ => (ih (i + 1)).bind fun vs _ => failsOnly_ok _

theorem failsOnly_collect {map : Row → Nat → Except CallError Value}
    (hm : ∀ row i, FailsOnly P (map row i)) (rows : List Row) :
    FailsOnly P (collect map (rows, none)) :=
  (failsOnly_mapFrom hm 0 rows).bind fun _ _ => failsOnly_ok _

theorem failsOnly_mapped {m : RowMapper} (hm : .mapper m ∈ args) (row : Row) (i : Nat) :
    FailsOnly (Fault.OfResult x out args) (mapped m row i) := by
  unfold mapped
  rcases he : m.apply row i with e | v
  · exact failsOnly_fault (.mapper hm he)
  · exact failsOnly_ok v

theorem failsOnly_convertElements (handle : ArrayHandle) (declared : ArrayElement) :
    FailsOnly (Fault.OfResult x out args) (convertElements Scripted.driver handle declared) := by
  unfold convertElements
  dsimp only [Scripted.driver]
  split
  · exact failsOnly_fault (.type _ _)
  · split
    · exact failsOnly_ok _
    · split
      · exact failsOnly_fault (.nullElement _)
      · exact failsOnly_ok _

theorem failsOnly_onlyArray (declared : ArrayElement) (handle : ArrayHandle) (rows : List Row) :
    FailsOnly (Fault.OfResult x out args)
      (onlyArray Scripted.driver declared handle (rows, none)) := by
  cases rows with
  | nil => exact failsOnly_convertElements handle declared
  | cons row more => exact failsOnly_fault (.size _ _)

theorem failsOnly_fromSlot {f : Slot → Except CallError α}
    (hf : ∀ slot, FailsOnly (Fault.OfResult x out args) (f slot)) :
    FailsOnly (Fault.OfResult x out args) (out.fromSlot f) := by
  unfold Registrar.fromSlot
  split
  · exact hf _
  · exact failsOnly_fault (.noOutput ‹_›)

theorem failsOnly_answerRows (rows : Option RowSet) :
    FailsOnly (Fault.OfResult x out args) (answerRows s out rows) := by
  cases rows with
  | some rows => exact failsOnly_ok _
  | none => exact failsOnly_fromSlot fun _ => failsOnly_ok _

theorem failsOnly_answer (x : Extractor) (rows : Option RowSet) :
    FailsOnly (Fault.OfResult x out args) (x.answer s out bound args rows).1 := by
  cases x with
  | void policy =>
    cases rows with
    | some rows => exact failsOnly_discard policy _
    | none => exact failsOnly_ok _
  | scalar kind =>
    cases rows with
    | some rows => exact failsOnly_singleValue kind _
    | none => exact failsOnly_fromSlot fun slot => failsOnly_coerced kind _
  | scalarList kind n =>
    exact (failsOnly_answerRows rows).bind fun rows _ =>
      failsOnly_collect (fun row _ => failsOnly_coerced kind row.first) rows
  | mappedList mapper n =>
    rw [answer]
    rcases hm : args[mapper]?.bind Argument.mapper? with _ | m
    · exact failsOnly_fault (.noMapper rfl hm)
    · obtain ⟨a, ha, hm⟩ := Option.bind_eq_some_iff.mp hm
      have hmem : Argument.mapper m ∈ args := by
        cases a with
        | value v => cases hm
        | mapper m' =>
          obtain rfl := Option.some.inj hm
          exact List.mem_of_getElem? ha
      exact (failsOnly_answerRows rows).bind fun rows _ =>
        failsOnly_collect (failsOnly_mapped hmem) rows
  | array declared =>
    cases rows with
    | some rows =>
      rw [answer]
      split
      · exact failsOnly_fault (.size 1 0)
      · exact failsOnly_onlyArray declared _ _
    | none =>
      rw [answer]
      split
      · exact failsOnly_fault (.noOutput ‹_›)
      · exact failsOnly_ok _
      · exact failsOnly_convertElements _ declared

end Extractor

/-! ## Invocations -/

/-- The failures of an invocation on a database. -/
inductive Fault.Origin (x : Descriptor) (args : List Argument) (db : Database) : Fault → Prop
  | shape (i : Nat) (expected : String) : Origin x args db (.argumentShape i expected)
  | result {f : Fault} (h : f.OfResult x.extractor x.output args) : Origin x args db f
  | creation {n : Nat} {text : String} (h : db.arrayCreationFailure = some (n, text)) :
      Origin x args db (.backend ⟨.other, text⟩)
  | prepare {e : BackendError} (h : (db.script x.callString).prepareError = some e) :
      Origin x args db (.backend e)
  | execute {e : BackendError} (h : (db.script x.callString).error = some e) :
      Origin x args db (.backend e)
  | close {e : BackendError} (h : (db.script x.callString).closeError = some e) :
      Origin x args db (.backend e)
  | release {i : Nat} {text : String} (h : (i, text) ∈ db.freeFailures) :
      Origin x args db (.backend ⟨.other, text⟩)

theorem Fault.Origin.of_sameSetup {x : Descriptor} {args : List Argument} {db db' : Database}
    {f : Fault} (hs : db.SameSetup db') (h : f.Origin x args db') : f.Origin x args db := by
  cases h with
  | shape i expected => exact .shape i expected
  | result h => exact .result h
  | creation h => exact .creation (hs.arrayCreationFailure ▸ h)
  | prepare h => exact .prepare (hs.script x.callString ▸ h)
  | execute h => exact .execute (hs.script x.callString ▸ h)
  | close h => exact .close (hs.script x.callString ▸ h)
  | release h => exact .release (hs.freeFailures ▸ h)

theorem Binder.shape_of_entriesFrom {b : Binder} (h₀ : ∀ i, b.slot? i ≠ some (.index 0))
    {leases : List ArrayLease} {i : Nat} {args : List Argument} {e : CallError}
    (h : (b.entriesFrom leases i args).2 = some e) :
    ∃ j, e = .fault (.argumentShape j "value") := by
  obtain ⟨j, a, _, he, _⟩ := exists_refused h
  exact ⟨i + j, ((entry_eq_error (h₀ (i + j))).mp he).2.2.2⟩

namespace ArrayLease

theorem Making.refusal {args : List Argument} {slots : List ArraySlot} {db db' : Database}
    {leases : List ArrayLease} {refusal : Option (Nat × CallError)}
    (h : Making Scripted.driver args slots db leases refusal db') : ∀ r ∈ refusal,
      (∃ i, r.2 = .fault (.argumentShape i "array")) ∨
        ∃ n text, db.arrayCreationFailure = some (n, text) ∧ r.2 = .backend ⟨.other, text⟩ := by
  induction h with
  | done db => exact nofun
  | skipped _ _ ih => exact ih
  | misshaped _ =>
    rintro r ⟨⟩
    exact .inl ⟨_, rfl⟩
  | failed _ hc =>
    rintro r ⟨⟩
    obtain ⟨ho, -⟩ := Scripted.eq_of_createArray_error hc
    obtain ⟨text, hf, rfl⟩ := Database.createOutcome_eq_error.mp ho
    exact .inr ⟨_, text, hf, rfl⟩
  | made _ hc _ ih =>
    obtain ⟨-, rfl⟩ := Scripted.eq_of_createArray_ok hc
    exact ih

end ArrayLease

theorem FailsOnly.ofFailures {es : List CallError} (h : ∀ e ∈ es, ∃ f, e = .fault f ∧ P f) :
    FailsOnly P (CallError.ofFailures es) := by
  rw [FailsOnly, failuresOf_ofFailures]
  induction es with
  | nil => exact nofun
  | cons e es ih =>
    obtain ⟨f, rfl, hf⟩ := h e List.mem_cons_self
    intro g hg
    rcases List.mem_cons.mp hg with rfl | hg
    · exact hf
    · exact ih (fun e he => h e (List.mem_cons_of_mem _ he)) g hg

namespace Descriptor

variable {x : Descriptor} {args : List Argument} {leases : List ArrayLease} {db : Database}

theorem failsOnly_answer (h₀ : ∀ i, x.inputs.slot? i ≠ some (.index 0)) :
    FailsOnly (Fault.Origin x args db) (x.answer args leases (db.script x.callString)).1 := by
  unfold answer
  split
  · rename_i e _ he
    obtain ⟨i, rfl⟩ := Binder.shape_of_entriesFrom h₀ he
    exact failsOnly_fault (.shape i "value")
  · rename_i e _ hs
    unfold Extractor.started at hs
    split at hs
    · cases hs
      exact failsOnly_fault (.execute ‹_›)
    · cases hs
  · exact (Extractor.failsOnly_answer _ _).imp fun _ h => .result h

theorem failsOnly_returnOutcome (array : Option ArrayData) :
    FailsOnly (Fault.Origin x args db) (db.returnOutcome array) := by
  cases array with
  | none => exact failsOnly_ok ()
  | some data =>
    rw [Database.returnOutcome]
    rcases ho : db.freeOutcome db.arrays.length with e | ⟨⟩
    · obtain ⟨text, ht, rfl⟩ := Database.freeOutcome_eq_error.mp ho
      obtain ⟨before, after, hf, _⟩ := List.lookup_eq_some_iff.mp ht
      exact failsOnly_fault (.release (i := db.arrays.length) (by simp [hf]))
    · exact failsOnly_ok ()

theorem failsOnly_closeOutcome :
    FailsOnly (Fault.Origin x args db) (db.script x.callString).closeOutcome := by
  unfold Script.closeOutcome
  split
  · exact failsOnly_fault (.close ‹_›)
  · exact failsOnly_ok ()

theorem failsOnly_execute (h₀ : ∀ i, x.inputs.slot? i ≠ some (.index 0)) :
    FailsOnly (Fault.Origin x args db) ((x.execute Scripted.driver args leases).on db).1 := by
  rw [execute_on]
  split
  · exact failsOnly_fault (.prepare ‹_›)
  · exact ((failsOnly_answer h₀).mergeRelease (failsOnly_returnOutcome _)).mergeRelease
      failsOnly_closeOutcome

/-- Every failure of an invocation, before it is wrapped, has one of the origins. -/
theorem failsOnly_invoke (h₀ : ∀ i, x.inputs.slot? i ≠ some (.index 0)) (db : Database) :
    ∃ outcome, ((x.invoke Scripted.driver args).on db).1 = outcome.mapError x.wrap ∧
      FailsOnly (Fault.Origin x args db) outcome := by
  have hmaking := ArrayLease.making_make Scripted.driver args x.arraySlots db
  have hm := hmaking.numbered
  rw [invoke_on]
  rcases hr : db.run (ArrayLease.make Scripted.driver args x.arraySlots) with
    ⟨⟨leases, refusal⟩, db₁⟩
  rw [hr] at hmaking hm
  -- The arrays that were made are still there when they are released.
  have hreleased (db₂ : Database) (hs : db₁.SameSetup db₂)
      (hlen : db₁.arrays.length ≤ db₂.arrays.length) :
      FailsOnly (Fault.Origin x args db) (CallError.ofFailures
        (db₂.run (ArrayLease.releaseAll Scripted.driver leases)).1) := by
    refine .ofFailures fun e he => ?_
    obtain ⟨i, text, hf, rfl⟩ := ArrayLease.mem_freeFailures_of_releaseAll
      (fun l hl => Nat.lt_of_lt_of_le (hm.id_lt hl) hlen) he
    exact ⟨_, rfl, .release ((hm.setup.trans hs).freeFailures ▸ hf)⟩
  rcases refusal with _ | ⟨i, e⟩
  · refine ⟨_, rfl, FailsOnly.mergeRelease ?_ (hreleased _ (x.sameSetup_execute args leases db₁) ?_)⟩
    · exact (failsOnly_execute h₀).imp fun f hf => hf.of_sameSetup hm.setup
    · exact (x.settles_execute args leases db₁).length_arrays
  · refine ⟨.error _, rfl, FailsOnly.withSuppressed ?_ (hreleased db₁ (.refl db₁) (Nat.le_refl _))⟩
    rcases hmaking.refusal _ rfl with ⟨j, rfl⟩ | ⟨n, text, hf, rfl⟩
    · exact failsOnly_fault (.shape j "array")
    · exact failsOnly_fault (.creation hf)

end Descriptor

end ProcCall
