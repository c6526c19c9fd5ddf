import ProcCall.Call.Registrar
import ProcCall.Proofs.Scripted.Steps

/-! # Reading rows and outputs

On the scripted driver all rows that are left can be read. A call that has registered its
output slot can read it, and what it reads follows from the script and from what was
bound to the slot.
-/

namespace ProcCall

/-- The value in an output slot: the scripted one, else what was bound to the slot. -/
def Script.outputValue (s : Script) (bound : List (Slot × Binding)) (slot : Slot) : Value :=
  match s.outValues.lookup slot with
  | some v => v
  | none => ((bound.reverse.lookup slot).bind Binding.value?).getD .null

namespace Scripted

/-! ## Rows -/

theorem readRows_succ {d : Driver} {n : Nat} {r rest : RowSet} {row : Row}
    (h : d.next r = (.ok (some row), rest)) :
    d.readRows (n + 1) r = (row :: (d.readRows n rest).1, (d.readRows n rest).2) := by
  rw [Driver.readRows, h]

theorem readRows_pending {n : Nat} {r : RowSet} (h : r.pending.length < n) :
    driver.readRows n r = (r.pending, none) := by
  induction n generalizing r with
  | zero => cases h
  | succ n ih =>
    obtain ⟨rows, arrays, mark⟩ := r
    rcases rows with _ | ⟨row, rows⟩
    · rcases arrays with _ | ⟨a, arrays⟩
      · rfl
      · have hr := @ih { rows := [], arrays, mark } (Nat.lt_of_succ_lt_succ h)
        rw [readRows_succ rfl, RowSet.advance, hr]
        rfl
    · have hr := @ih { rows, arrays, mark } (Nat.lt_of_succ_lt_succ h)
      rw [readRows_succ rfl, RowSet.advance, hr]
      rfl

theorem drain_pending (r : RowSet) : driver.drain r = (r.pending, none) :=
  readRows_pending (Nat.lt_succ_self _)

/-! ## Outputs -/

variable {db : Database} {stmt : Statement} {slot : Slot}

theorem outputOf_eq_outputValue (stmt : Statement) (slot : Slot) (db : Database) :
    outputOf stmt slot db =
      stmt.script.outputValue (((db.record? stmt.call).map CallRecord.bindings).getD []) slot := by
  rw [outputOf]
  cases db.record? stmt.call <;> rfl

theorem outputOf_eq {r : CallRecord} (h : db.record? stmt.call = some r) (slot : Slot) :
    outputOf stmt slot db = stmt.script.outputValue r.bindings slot := by
  rw [outputOf_eq_outputValue, h]
  rfl

theorem requireRegistered_on
    (h : (db.record? stmt.call).any (·.isRegistered slot) = true) :
    (requireRegistered stmt slot).on db = (.ok (), db) := by
  refine (Action.on_bind_ok (Action.on_get db) _).trans ?_
  rw [if_pos h]
  rfl

theorem outUntyped_on (h : (db.record? stmt.call).any (·.isRegistered slot) = true) :
    (driver.outUntyped stmt slot).on db = (.ok (outputOf stmt slot db), db) :=
  Action.on_bind_ok (requireRegistered_on h) _

theorem outValue_on (h : db.untyped = false) (slot : Slot) (t : SqlType) :
    (driver.outValue stmt slot t).on db = (driver.outUntyped stmt slot).on db := by
  change (outValue stmt slot t).on db = _
  rw [outValue, Action.on_bind_ok (Action.on_get db), h]
  rfl

theorem outRows_on (h : (db.record? stmt.call).any (·.isRegistered slot) = true) :
    (driver.outRows stmt slot).on db =
      (.ok { rows := stmt.script.outRows.getD [], arrays := [] }, db) :=
  Action.on_bind_ok (requireRegistered_on h) _

theorem outArray_on (h : (db.record? stmt.call).any (·.isRegistered slot) = true) :
    (driver.outArray stmt slot).on db =
      match stmt.script.outArray with
      | none => (.ok none, db)
      | some data => (.ok (some ⟨db.arrays.length, data, false⟩), db.tracked data false) := by
  refine (Action.on_bind_ok (requireRegistered_on h) _).trans ?_
  cases stmt.script.outArray <;> rfl

end Scripted

namespace Registrar

def RegisteredIn (out : Registrar) (stmt : Statement) (db : Database) : Prop :=
  ∀ slot ∈ out.slot?, (db.record? stmt.call).any (·.isRegistered slot) = true

theorem registeredIn_of_slot {out : Registrar} {stmt : Statement} {db : Database} {slot : Slot}
    (hslot : out.slot? = some slot)
    (hregistered : (db.record? stmt.call).any (·.isRegistered slot) = true) :
    out.RegisteredIn stmt db := by
  intro s hs
  obtain rfl : slot = s := Option.some.inj (hslot.symm.trans hs)
  exact hregistered

def fromSlot {α : Type} (out : Registrar) (f : Slot → Except CallError α) : Except CallError α :=
  match out.slot? with
  | some slot => f slot
  | .none => .error (.fault .noOutParameter)

variable {out : Registrar} {stmt : Statement} {db : Database}

theorem on_require_bind {α : Type} (h : out.RegisteredIn stmt db)
    {f : Slot × SqlType → Action CallError α} {g : Slot → Except CallError α}
    (hf : ∀ slot t, (db.record? stmt.call).any (·.isRegistered slot) = true →
      (f (slot, t)).on db = (g slot, db)) :
    (out.require >>= f).on db = (out.fromSlot g, db) := by
  unfold RegisteredIn slot? at h
  unfold require fromSlot slot?
  rcases ht : out.target? with _ | ⟨slot, t⟩ <;> rw [ht] at h
  · rfl
  · exact (Action.on_bind_ok (Action.on_pure _ _) f).trans (hf slot t (h slot rfl))

theorem readScalar_on (h : out.RegisteredIn stmt db) (kind : ScalarKind) :
    (out.readScalar Scripted.driver stmt kind).on db =
      (out.fromSlot fun slot => coerced kind (Scripted.outputOf stmt slot db), db) := by
  refine on_require_bind h fun slot t hr => ?_
  have hraw : (Scripted.driver.outUntyped stmt slot).asCall.on db =
      (.ok (Scripted.outputOf stmt slot db), db) := by
    rw [Action.on_asCall, Scripted.outUntyped_on hr]
    rfl
  have hu : Scripted.driver.supportsTyped db = !db.untyped := rfl
  rw [Action.on_bind_ok (Action.on_get db), hu]
  cases htyped : db.untyped with
  | true => exact (Action.on_bind_ok hraw _).trans (Action.on_ofExcept _ _)
  | false =>
    have hvalue : (Scripted.driver.outValue stmt slot t).asCall.on db =
        (.ok (Scripted.outputOf stmt slot db), db) := by
      rw [Action.on_asCall, Scripted.outValue_on htyped, ← Action.on_asCall, hraw]
    exact (Action.on_bind_ok hvalue _).trans (Action.on_ofExcept _ _)

theorem readRows_on (h : out.RegisteredIn stmt db) :
    (out.readRows Scripted.driver stmt).on db =
      (out.fromSlot fun _ => .ok { rows := stmt.script.outRows.getD [], arrays := [] }, db) := by
  refine on_require_bind h fun slot t hr => ?_
  rw [Action.on_asCall, Scripted.outRows_on hr]
  rfl

theorem readArray_on (h : out.RegisteredIn stmt db) :
    (out.readArray Scripted.driver stmt).on db =
      match out.slot?, stmt.script.outArray with
      | .none, _ => (.error (.fault .noOutParameter), db)
      | some _, .none => (.ok .none, db)
      | some _, some data =>
        (.ok (some ⟨db.arrays.length, data, false⟩), db.tracked data false) := by
  unfold RegisteredIn slot? at h
  unfold readArray require slot?
  rcases ht : out.target? with _ | ⟨slot, t⟩ <;> rw [ht] at h
  · rfl
  · rw [Action.on_bind_ok (Action.on_pure _ _), Action.on_asCall,
      Scripted.outArray_on (h slot rfl)]
    cases stmt.script.outArray <;> rfl

end Registrar

end ProcCall
