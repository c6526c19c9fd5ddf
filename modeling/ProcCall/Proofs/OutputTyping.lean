import ProcCall.Proofs.Scripted.Locality
import ProcCall.Proofs.Session

/-! # Databases that do not convert

A database may give output values as they are stored instead of converting them to the type
that is asked for. A call then converts what it reads by itself, so no caller can tell one
kind of database from the other, however many calls it makes.
-/

namespace ProcCall

def Database.withUntyped (db : Database) (untyped : Bool) : Database := { db with untyped }

/-- The steps do the same whether output values are converted or not, and do not change
which of the two it is. -/
def TypingBlind {α : Type} (s : StateM Database α) : Prop :=
  ∀ (db : Database) (untyped : Bool),
    (db.withUntyped untyped).run s = ((db.run s).1, (db.run s).2.withUntyped untyped)

namespace TypingBlind

variable {α β : Type}

protected theorem pure (x : α) : TypingBlind (pure x) := fun _ _ => rfl

protected theorem bind {s : StateM Database α} {f : α → StateM Database β} (hs : TypingBlind s)
    (hf : ∀ x, TypingBlind (f x)) : TypingBlind (s >>= f) := by
  intro db untyped
  rw [Database.run_bind, hs db untyped]
  exact hf _ _ untyped

theorem untyped_eq {s : StateM Database α} (h : TypingBlind s) (db : Database) :
    (db.run s).2.untyped = db.untyped :=
  congrArg (fun out => out.2.untyped) (h db db.untyped)

end TypingBlind

/-! ## Steps -/

namespace Scripted

theorem typingBlind_createArray (typeName : String) (elements : List Value) :
    TypingBlind (driver.createArray typeName elements).run := by
  intro db untyped
  have houtcome : (db.withUntyped untyped).createOutcome = db.createOutcome := rfl
  rw [Action.run_run, Action.run_run, createArray_on, createArray_on, houtcome]
  cases db.createOutcome <;> rfl

theorem typingBlind_free (array : ArrayHandle) : TypingBlind (driver.free array).run := by
  intro db untyped
  rw [Action.run_run, Action.run_run]
  by_cases h : array.id < db.arrays.length
  · have h' : array.id < (db.withUntyped untyped).arrays.length := h
    rw [free_on db h, free_on _ h']
    rfl
  · have h' : ¬ array.id < (db.withUntyped untyped).arrays.length := h
    rw [free_on_missing db h, free_on_missing _ h']

end Scripted

namespace ArrayLease

theorem typingBlind_make (args : List Argument) (slots : List ArraySlot) :
    TypingBlind (make Scripted.driver args slots) := by
  induction slots with
  | nil => exact .pure _
  | cons slot rest ih =>
    rw [make]
    split
    · refine (Scripted.typingBlind_createArray slot.typeName _).bind fun created => ?_
      cases created with
      | error e => exact .pure _
      | ok array => exact ih.bind fun _ => .pure _
    · exact ih
    · exact ih
    · exact .pure _

theorem typingBlind_releaseAll (leases : List ArrayLease) :
    TypingBlind (releaseAll Scripted.driver leases) := by
  induction leases with
  | nil => exact .pure _
  | cons l rest ih =>
    refine (Scripted.typingBlind_free l.array).bind fun released => ih.bind fun failures => ?_
    cases released <;> exact .pure _

end ArrayLease

/-! ## Reading an output -/

namespace Registrar

variable (out : Registrar) (stmt : Statement) (kind : ScalarKind)

/-- A call asks for a converted value only where the database converts, and what it gets is
what it would have got unconverted. -/
theorem readScalar_on_slotOutcome (db : Database) :
    (out.readScalar Scripted.driver stmt kind).on db =
      (out.fromSlot fun slot => do
        let raw ← (Scripted.slotOutcome slot stmt.script (db.record? stmt.call)).mapError
          CallError.backend
        coerced kind raw, db) := by
  rw [readScalar, fromSlot, require, slot?]
  rcases out.target? with _ | ⟨slot, t⟩
  · rfl
  · rw [Action.on_bind_ok (Action.on_pure _ _)]
    dsimp only
    rw [Action.on_bind_ok (Action.on_get db)]
    have hread {raw : Action BackendError Value}
        (hraw : raw.on db = (Scripted.driver.outUntyped stmt slot).on db) :
        (do let v ← raw.asCall; Action.ofExcept (coerced kind v)).on db =
          (do
            let v ← (Scripted.slotOutcome slot stmt.script (db.record? stmt.call)).mapError
              CallError.backend
            coerced kind v, db) := by
      rw [Action.on_bind, Action.on_asCall,
        hraw.trans (Scripted.outUntyped_on_slotOutcome stmt slot db)]
      cases Scripted.slotOutcome slot stmt.script (db.record? stmt.call) <;> rfl
    cases hu : db.untyped with
    | true =>
      rw [if_neg (by simp [Scripted.driver, hu])]
      exact hread rfl
    | false =>
      rw [if_pos (by simp [Scripted.driver, hu])]
      exact hread (Scripted.outValue_on hu slot t)

theorem typingBlind_readScalar : TypingBlind (out.readScalar Scripted.driver stmt kind).run := by
  intro db untyped
  rw [Action.run_run, Action.run_run, readScalar_on_slotOutcome, readScalar_on_slotOutcome]
  rfl

end Registrar

/-! ## Calls -/

namespace Descriptor

/-- What a call gives and leaves follows from its script and its own record, whichever way
its output was read. -/
theorem typingBlind_execute (x : Descriptor) (args : List Argument) (leases : List ArrayLease) :
    TypingBlind (x.execute Scripted.driver args leases).run := by
  intro db untyped
  have hscript : (db.withUntyped untyped).script x.callString = db.script x.callString := rfl
  rw [Action.run_run, Action.run_run, execute_on, execute_on, hscript]
  cases (db.script x.callString).prepareError with
  | some e => rfl
  | none =>
    cases (x.answer args leases (db.script x.callString)).2 <;> rfl

theorem typingBlind_invoke (x : Descriptor) (args : List Argument) :
    TypingBlind (x.invoke Scripted.driver args).run := by
  intro db untyped
  have hmake := ArrayLease.typingBlind_make args x.arraySlots db untyped
  rw [Action.run_run, Action.run_run, invoke_on, invoke_on, hmake]
  rcases db.run (ArrayLease.make Scripted.driver args x.arraySlots) with
    ⟨⟨leases, _ | ⟨i, e⟩⟩, db₁⟩
  · have hexecute := x.typingBlind_execute args leases db₁ untyped
    rw [Action.run_run, Action.run_run] at hexecute
    simp only [hexecute, ArrayLease.typingBlind_releaseAll leases _ untyped]
  · simp only [ArrayLease.typingBlind_releaseAll leases _ untyped]

end Descriptor

namespace Caller

theorem typingBlind_invoke (c : Caller) (method : String) (args : List Argument) :
    TypingBlind (c.invoke Scripted.driver method args) := by
  refine TypingBlind.bind (s := (call Scripted.driver method args (c.descriptor method).1).run) ?_
    fun _ => .pure _
  rcases (c.descriptor method).1 with e | x
  · exact .pure _
  · unfold call
    dsimp only
    split
    · exact x.typingBlind_invoke args
    · exact .pure _

def invokeAll (d : Driver) (c : Caller) :
    List (String × List Argument) → StateM Database (List (Except CallError Value) × Caller)
  | [] => pure ([], c)
  | (method, args) :: rest => do
    let (outcome, c') ← c.invoke d method args
    let (outcomes, last) ← c'.invokeAll d rest
    pure (outcome :: outcomes, last)

theorem typingBlind_invokeAll (invocations : List (String × List Argument)) (c : Caller) :
    TypingBlind (c.invokeAll Scripted.driver invocations) := by
  induction invocations generalizing c with
  | nil => exact .pure _
  | cons invocation rest ih =>
    exact (c.typingBlind_invoke invocation.1 invocation.2).bind fun (_, c') =>
      (ih c').bind fun _ => .pure _

/-- An output slot reads the same whether the database converts output values or not. So an
invocation gives the same on both kinds of database, and leaves databases that again differ in
nothing else, and so does any sequence of invocations. -/
theorem typing_unnoticed (c : Caller) (db : Database) (untyped : Bool) :
    (∀ (out : Registrar) stmt kind,
      (out.readScalar Scripted.driver stmt kind).on (db.withUntyped untyped) =
        (((out.readScalar Scripted.driver stmt kind).on db).1,
          ((out.readScalar Scripted.driver stmt kind).on db).2.withUntyped untyped)) ∧
    (∀ method args,
      let invoked := db.run (c.invoke Scripted.driver method args)
      (db.withUntyped untyped).run (c.invoke Scripted.driver method args) =
          (invoked.1, invoked.2.withUntyped untyped) ∧
        invoked.2.untyped = db.untyped) ∧
    ∀ invocations : List (String × List Argument),
      let invoked := db.run (c.invokeAll Scripted.driver invocations)
      (db.withUntyped untyped).run (c.invokeAll Scripted.driver invocations) =
          (invoked.1, invoked.2.withUntyped untyped) ∧
        invoked.2.untyped = db.untyped := by
  refine ⟨fun out stmt kind => ?_, fun method args => ?_, fun invocations => ?_⟩
  · exact out.typingBlind_readScalar stmt kind db untyped
  · have hblind := c.typingBlind_invoke method args
    exact ⟨hblind db untyped, hblind.untyped_eq db⟩
  · have hblind := typingBlind_invokeAll invocations c
    exact ⟨hblind db untyped, hblind.untyped_eq db⟩

end Caller

end ProcCall
