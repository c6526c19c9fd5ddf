import ProcCall.Proofs.Scripted.Reading

/-! # Operations on one statement

What an operation of the scripted driver answers follows from the script and the record of
its own statement, and that record is all it changes.
-/

namespace ProcCall

/-- What can be asked of a prepared call, but for arrays. -/
inductive Operation where
  | setValue (slot : Slot) (v : Value)
  | setTyped (slot : Slot) (v : Value) (t : SqlType)
  | setNull (slot : Slot) (t : SqlType)
  | register (slot : Slot) (t : SqlType)
  | setFetchSize (rows : UInt32)
  | execute
  | resultSet
  | outValue (slot : Slot) (t : SqlType)
  | outUntyped (slot : Slot)
  | outRows (slot : Slot)
  | close

inductive Reply where
  | done (outcome : Except BackendError Unit)
  | executed (outcome : Except BackendError Bool)
  | rowSet (outcome : Except BackendError (Option RowSet))
  | row (outcome : Except BackendError (Option Row))
  | value (outcome : Except BackendError Value)
  /-- What was asked for is not there. -/
  | missing

def Reply.rowSet? : Reply → Option RowSet
  | rowSet (.ok rows) => rows
  | _ => none

def Operation.perform (d : Driver) (stmt : Statement) : Operation → StateM Database Reply
  | setValue slot v => Reply.done <$> (d.setValue stmt slot v).run
  | setTyped slot v t => Reply.done <$> (d.setTyped stmt slot v t).run
  | setNull slot t => Reply.done <$> (d.setNull stmt slot t).run
  | register slot t => Reply.done <$> (d.register stmt slot t).run
  | setFetchSize rows => Reply.done <$> (d.setFetchSize stmt rows).run
  | execute => Reply.executed <$> (d.execute stmt).run
  | resultSet => Reply.rowSet <$> (d.resultSet stmt).run
  | outValue slot t => Reply.value <$> (d.outValue stmt slot t).run
  | outUntyped slot => Reply.value <$> (d.outUntyped stmt slot).run
  | outRows slot => (Reply.rowSet ∘ Except.map some) <$> (d.outRows stmt slot).run
  | close => Reply.done <$> (d.close stmt).run

namespace Database

/-- All but the record of one call is as it was, and no call was added. -/
structure Touches (db : Database) (call : Nat) (db' : Database) : Prop where
  setup : db.SameSetup db'
  preparedCalls : db'.preparedCalls = db.preparedCalls
  others : ∀ i, i ≠ call → db'.record? i = db.record? i

theorem preparedCalls_update (db : Database) (call : Nat) {f : CallRecord → CallRecord}
    (hf : ∀ r, (f r).call = r.call) : (db.update call f).preparedCalls = db.preparedCalls := by
  refine List.ext_getElem? fun i => ?_
  simp only [preparedCalls, update, List.getElem?_map, List.getElem?_modify]
  rcases db.calls[i]? with _ | r
  · rfl
  · refine congrArg some ?_
    split
    · exact hf r
    · rfl

theorem update_eq_self {db : Database} {call : Nat} {f : CallRecord → CallRecord}
    (h : ∀ r ∈ db.record? call, f r = r) : db.update call f = db := by
  have hcalls : db.calls.modify call f = db.calls := by
    refine List.ext_getElem? fun i => ?_
    rw [List.getElem?_modify]
    split
    · subst i
      rcases hr : db.calls[call]? with _ | r
      · rfl
      · exact congrArg some (h r hr)
    · exact Option.map_id_apply
  rw [update, hcalls]

theorem touches_update (db : Database) (call : Nat) {f : CallRecord → CallRecord}
    (hf : ∀ r, (f r).call = r.call) : db.Touches call (db.update call f) := by
  refine ⟨⟨rfl, rfl, rfl, rfl⟩, ?_, fun i hi => ?_⟩
  · exact db.preparedCalls_update call hf
  · simp [record?, update, hi.symm]

end Database

/-- The result of a step on a statement follows from the script and the record of the
statement, and no more than this record is changed. -/
def Local {α : Type} (step : Statement → StateM Database α) : Prop :=
  ∃ (result : Bool → Script → Option CallRecord → α) (effect : Script → CallRecord → CallRecord),
    (∀ s r, (effect s r).call = r.call) ∧
      ∀ (stmt : Statement) (db : Database), db.run (step stmt) =
        (result db.untyped stmt.script (db.record? stmt.call),
          db.update stmt.call (effect stmt.script))

namespace Local

variable {α β : Type} {step : Statement → StateM Database α}

theorem touches (h : Local step) (stmt : Statement) (db : Database) :
    db.Touches stmt.call (db.run (step stmt)).2 := by
  obtain ⟨_, effect, hcall, hrun⟩ := h
  rw [hrun]
  exact db.touches_update stmt.call (hcall stmt.script)

/-- Statements with the same script and record cannot be told apart. -/
theorem same (h : Local step) {stmt stmt' : Statement} {db db' : Database}
    (hscript : stmt.script = stmt'.script) (huntyped : db.untyped = db'.untyped)
    (hrecord : db.record? stmt.call = db'.record? stmt'.call) :
    (db.run (step stmt)).1 = (db'.run (step stmt')).1 ∧
      (db.run (step stmt)).2.record? stmt.call = (db'.run (step stmt')).2.record? stmt'.call := by
  obtain ⟨_, _, _, hrun⟩ := h
  rw [hrun, hrun, Database.record?_update, Database.record?_update, hscript, huntyped, hrecord]
  exact ⟨rfl, rfl⟩

theorem map (h : Local step) (f : α → β) : Local fun stmt => f <$> step stmt := by
  obtain ⟨result, effect, hcall, hrun⟩ := h
  refine ⟨fun untyped s r => f (result untyped s r), effect, hcall, fun stmt db => ?_⟩
  change (f (db.run (step stmt)).1, (db.run (step stmt)).2) = _
  rw [hrun]

theorem of_read {a : Statement → Action BackendError α}
    (result : Bool → Script → Option CallRecord → Except BackendError α)
    (h : ∀ (stmt : Statement) (db : Database), (a stmt).on db =
      (result db.untyped stmt.script (db.record? stmt.call), db)) :
    Local fun stmt => (a stmt).run :=
  ⟨result, fun _ => id, fun _ _ => rfl, fun stmt db => by
    rw [Action.run_run, h, Database.update_id]⟩

theorem of_effect {a : Statement → Action BackendError α}
    (result : Script → Except BackendError α) (effect : Script → CallRecord → CallRecord)
    (hcall : ∀ s r, (effect s r).call = r.call)
    (h : ∀ (stmt : Statement) (db : Database), (a stmt).on db =
      (result stmt.script, db.update stmt.call (effect stmt.script))) :
    Local fun stmt => (a stmt).run :=
  ⟨fun _ s _ => result s, effect, hcall, h⟩

end Local

namespace Scripted

theorem local_bind (slot : Slot) (b : Binding) : Local fun stmt => (bind stmt slot b).run := by
  by_cases h : slot = .index 0
  · exact .of_read (fun _ _ _ => .error ⟨.query, "parameter index 0 is out of range"⟩)
      fun stmt db => by rw [bind_on, if_pos h]
  · exact .of_effect (fun _ => .ok ())
      (fun _ r => { r with bindings := r.bindings ++ [(slot, b)] }) (fun _ _ => rfl)
      fun stmt db => by rw [bind_on, if_neg h]

theorem local_resultSet : Local fun stmt => (resultSet stmt).run := by
  refine ⟨fun _ s r => .ok (if r.any CallRecord.rowsTaken || !s.hasRows then none
      else some { rows := s.rows.getD [], arrays := s.resultArrays }),
    fun s r => { r with rowsTaken := r.rowsTaken || s.hasRows }, fun _ _ => rfl, ?_⟩
  intro stmt db
  refine (resultSet_on db stmt).trans ?_
  dsimp only
  split
  · rename_i h
    rw [Database.update_eq_self]
    intro r hr
    rw [hr, Option.any_some] at h
    have hsame : (r.rowsTaken || stmt.script.hasRows) = r.rowsTaken := by
      rcases (Bool.or_eq_true _ _).mp h with ht | hn
      · rw [ht, Bool.true_or]
      · rw [(Bool.not_eq_true' _).mp hn, Bool.or_false]
    rw [hsame]
  · rename_i h
    rcases hrows : stmt.script.hasRows with _ | _
    · exact absurd (by rw [hrows]; exact Bool.or_true _) h
    · simp only [Bool.or_true]

def readOutcome {α : Type} (slot : Slot) (r : Option CallRecord) (v : α) : Except BackendError α :=
  if r.any (·.isRegistered slot) then .ok v
  else .error ⟨.query, "output parameter " ++ slot.describe ++ " was not registered"⟩

theorem requireRegistered_then_on {α : Type} (stmt : Statement) (slot : Slot)
    (next : Action BackendError α) (db : Database) {v : α} (h : next.on db = (.ok v, db)) :
    (do requireRegistered stmt slot; next).on db =
      (readOutcome slot (db.record? stmt.call) v, db) := by
  rw [readOutcome]
  split
  · exact (Action.on_bind_ok (requireRegistered_on ‹_›) _).trans h
  · rw [requireRegistered, Action.on_bind, Action.on_bind, Action.on_get]
    dsimp only
    rw [if_neg ‹_›]
    rfl

def slotOutcome (slot : Slot) (s : Script) (r : Option CallRecord) : Except BackendError Value :=
  readOutcome slot r (s.outputValue ((r.map CallRecord.bindings).getD []) slot)

theorem outUntyped_on_slotOutcome (stmt : Statement) (slot : Slot) (db : Database) :
    (outUntyped stmt slot).on db =
      (slotOutcome slot stmt.script (db.record? stmt.call), db) := by
  rw [slotOutcome, ← outputOf_eq_outputValue]
  exact requireRegistered_then_on stmt slot _ db rfl

theorem local_outUntyped (slot : Slot) : Local fun stmt => (outUntyped stmt slot).run :=
  .of_read (fun _ s r => slotOutcome slot s r) fun stmt db => outUntyped_on_slotOutcome stmt slot db

theorem local_outValue (slot : Slot) (t : SqlType) :
    Local fun stmt => (outValue stmt slot t).run :=
  .of_read (fun untyped s r =>
      if untyped then .error ⟨.notSupported, "typed output retrieval"⟩ else slotOutcome slot s r)
    fun stmt db => by
      rw [outValue, Action.on_bind, Action.on_get]
      dsimp only
      split
      · rfl
      · exact outUntyped_on_slotOutcome stmt slot db

theorem local_outRows (slot : Slot) : Local fun stmt => (outRows stmt slot).run :=
  .of_read (fun _ s r => readOutcome slot r { rows := s.outRows.getD [], arrays := [] })
    fun stmt db => requireRegistered_then_on stmt slot _ db rfl

end Scripted

/-- An operation answers from its own statement and changes no other. -/
theorem Operation.local_perform (op : Operation) : Local fun stmt => op.perform Scripted.driver stmt := by
  cases op with
  | setValue slot v => exact (Scripted.local_bind slot (.value v)).map Reply.done
  | setTyped slot v t => exact (Scripted.local_bind slot (.typed v t)).map Reply.done
  | setNull slot t => exact (Scripted.local_bind slot (.null t)).map Reply.done
  | register slot t =>
    exact (Local.of_effect (fun _ => .ok ())
      (fun _ r => { r with registered := r.registered ++ [(slot, t)] }) (fun _ _ => rfl)
      fun stmt db => Scripted.register_on db stmt slot t).map Reply.done
  | setFetchSize rows =>
    exact (Local.of_effect (fun _ => .ok ()) (fun _ r => { r with fetchSize := some rows })
      (fun _ _ => rfl) fun stmt db => Scripted.setFetchSize_on db stmt rows).map Reply.done
  | execute =>
    exact (Local.of_effect (fun s => s.error.elim (.ok s.hasRows) .error)
      (fun _ r => { r with executed := true }) (fun _ _ => rfl) fun stmt db => by
        rw [Scripted.execute_on]
        cases stmt.script.error <;> rfl).map Reply.executed
  | resultSet => exact Scripted.local_resultSet.map Reply.rowSet
  | outValue slot t => exact (Scripted.local_outValue slot t).map Reply.value
  | outUntyped slot => exact (Scripted.local_outUntyped slot).map Reply.value
  | outRows slot => exact (Scripted.local_outRows slot).map (Reply.rowSet ∘ Except.map some)
  | close =>
    exact (Local.of_effect (fun s => s.closeError.elim (.ok ()) .error)
      (fun _ r => { r with closed := true }) (fun _ _ => rfl) fun stmt db => by
        rw [Scripted.close_on]
        cases stmt.script.closeError <;> rfl).map Reply.done

end ProcCall
