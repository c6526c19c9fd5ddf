import ProcCall.Proofs.Scripted.Locality

/-! # Reading back what was bound

A slot that is registered reads as what the script writes into it, else as what was bound
to it last. Calls that are refused leave no trace, and neither do calls on other slots.
-/

namespace ProcCall

/-- What can be done to a statement before it is executed. -/
inductive Preparation where
  | setValue (slot : Slot) (v : Value)
  | setTyped (slot : Slot) (v : Value) (t : SqlType)
  | setNull (slot : Slot) (t : SqlType)
  | setArray (slot : Slot) (array : ArrayHandle)
  | register (slot : Slot) (t : SqlType)

namespace Preparation

section Calls

variable (d : Driver) (stmt : Statement)

def perform : Preparation → Action BackendError Unit
  | setValue slot v => d.setValue stmt slot v
  | setTyped slot v t => d.setTyped stmt slot v t
  | setNull slot t => d.setNull stmt slot t
  | setArray slot array => d.setArray stmt slot array
  | register slot t => d.register stmt slot t

def performAll : List Preparation → StateM Database (List (Preparation × Except BackendError Unit))
  | [] => pure []
  | p :: rest => do
    let outcome ← (p.perform d stmt).run
    let log ← performAll rest
    pure ((p, outcome) :: log)

end Calls

/-- The value that a setter puts into the slot, whatever its type. Arrays read as NULL. -/
def sets? (slot : Slot) : Preparation → Option Value
  | setValue s v | setTyped s v _ => if s = slot then some v else none
  | setNull s _ | setArray s _ => if s = slot then some .null else none
  | register _ _ => none

/-- What an entry of a log has put into the slot. A call that was refused puts nothing. -/
def put? (slot : Slot) : Preparation × Except BackendError Unit → Option Value
  | (p, .ok ()) => p.sets? slot
  | (_, .error _) => none

def accepted (slot : Slot) (log : List (Preparation × Except BackendError Unit)) : List Value :=
  log.filterMap (put? slot)

def Registers (slot : Slot) (ps : List Preparation) : Prop := ∃ t, register slot t ∈ ps

end Preparation

namespace CallRecord

def valueAt (r : CallRecord) (slot : Slot) : Value :=
  ((r.binding? slot).bind Binding.value?).getD .null

def bound (slot : Slot) (b : Binding) (r : CallRecord) : CallRecord :=
  if slot = .index 0 then r else { r with bindings := r.bindings ++ [(slot, b)] }

variable {r : CallRecord} {s slot : Slot} {b : Binding}

theorem valueAt_bound (hs : s ≠ .index 0) :
    (r.bound s b).valueAt slot = if s = slot then b.value?.getD .null else r.valueAt slot := by
  rw [bound, if_neg hs, valueAt, binding?]
  simp only [List.reverse_append, List.reverse_singleton, List.singleton_append,
    List.lookup_cons]
  split
  · rename_i h
    rw [if_pos (beq_iff_eq.mp h).symm, Option.bind_some]
  · rename_i h
    rw [if_neg fun hs => ne_of_beq_false h hs.symm]
    rfl

theorem isRegistered_bound : (r.bound s b).isRegistered slot = r.isRegistered slot := by
  unfold bound
  split <;> rfl

end CallRecord

namespace Preparation

/-! ## One preparation -/

def outcome : Preparation → Except BackendError Unit
  | setValue s _ | setTyped s _ _ | setNull s _ | setArray s _ =>
    if s = .index 0 then .error ⟨.query, "parameter index 0 is out of range"⟩ else .ok ()
  | register _ _ => .ok ()

def effect : Preparation → CallRecord → CallRecord
  | setValue s v => .bound s (.value v)
  | setTyped s v t => .bound s (.typed v t)
  | setNull s t => .bound s (.null t)
  | setArray s array => .bound s (.array array.data.typeName)
  | register s t => fun r => { r with registered := r.registered ++ [(s, t)] }

variable {stmt : Statement} {slot : Slot} {r : CallRecord}

theorem bind_on_bound (s : Slot) (b : Binding) (db : Database) :
    (Scripted.bind stmt s b).on db =
      (if s = .index 0 then .error ⟨.query, "parameter index 0 is out of range"⟩ else .ok (),
        db.update stmt.call (.bound s b)) := by
  rw [Scripted.bind_on]
  unfold CallRecord.bound
  split
  · rw [show (fun r : CallRecord => r) = id from rfl, Database.update_id]
  · rfl

theorem perform_on (p : Preparation) (db : Database) :
    (p.perform Scripted.driver stmt).on db = (p.outcome, db.update stmt.call p.effect) := by
  cases p with
  | register s t => rfl
  | _ => exact bind_on_bound _ _ db

theorem outcome_eq_ok {p : Preparation} : p.outcome = .ok () ↔ p.sets? (.index 0) = none := by
  cases p <;> simp [outcome, sets?]

theorem valueAt_bound_eq {p : Preparation} {s : Slot} {b : Binding} {e : BackendError}
    (hp : p.sets? slot = if s = slot then some (b.value?.getD .null) else none) :
    (r.bound s b).valueAt slot =
      (put? slot (p, if s = .index 0 then .error e else .ok ())).getD (r.valueAt slot) := by
  by_cases hs : s = .index 0
  · rw [CallRecord.bound, if_pos hs, if_pos hs]
    rfl
  · rw [CallRecord.valueAt_bound hs, if_neg hs, put?, hp]
    split <;> rfl

theorem valueAt_effect (p : Preparation) (slot : Slot) (r : CallRecord) :
    (p.effect r).valueAt slot = (put? slot (p, p.outcome)).getD (r.valueAt slot) := by
  cases p with
  | register s t => rfl
  | _ => exact valueAt_bound_eq rfl

theorem isRegistered_effect (p : Preparation) (slot : Slot) (r : CallRecord) :
    (p.effect r).isRegistered slot = true ↔
      r.isRegistered slot = true ∨ ∃ t, p = register slot t := by
  cases p with
  | register s t => simp [effect, CallRecord.isRegistered]
  | _ => simp [effect, CallRecord.isRegistered_bound]

/-! ## All preparations -/

def effects (ps : List Preparation) (r : CallRecord) : CallRecord :=
  ps.foldl (fun r p => p.effect r) r

/-- Each becomes what it would alone, and together they change only the record of the call. -/
theorem run_performAll (ps : List Preparation) (db : Database) :
    db.run (performAll Scripted.driver stmt ps) =
      (ps.map fun p => (p, p.outcome), db.update stmt.call (effects ps)) := by
  induction ps generalizing db with
  | nil => exact Prod.ext rfl (db.update_id stmt.call).symm
  | cons p ps ih =>
    simp only [performAll, Database.run_bind, Action.run_run, perform_on, ih, Database.run_pure,
      Database.update_update, List.map_cons]
    rfl

theorem valueAt_effects (ps : List Preparation) (slot : Slot) (r : CallRecord) :
    (effects ps r).valueAt slot =
      (accepted slot (ps.map fun p => (p, p.outcome))).getLast?.getD (r.valueAt slot) := by
  induction ps generalizing r with
  | nil => rfl
  | cons p ps ih =>
    have hstep : effects (p :: ps) r = effects ps (p.effect r) := rfl
    rw [hstep, ih, valueAt_effect, accepted, accepted, List.map_cons, List.filterMap_cons]
    cases put? slot (p, p.outcome) with
    | none => rfl
    | some v => rw [List.getLast?_cons]; rfl

theorem isRegistered_effects (ps : List Preparation) (slot : Slot) (r : CallRecord) :
    (effects ps r).isRegistered slot = true ↔ r.isRegistered slot = true ∨ Registers slot ps := by
  induction ps generalizing r with
  | nil => simp [effects, Registers]
  | cons p ps ih =>
    have hstep : effects (p :: ps) r = effects ps (p.effect r) := rfl
    rw [hstep, ih, isRegistered_effect]
    simp only [Registers, List.mem_cons, exists_or, or_assoc, eq_comm]

/-! ## Reading -/

theorem record?_of_prepare {call : String} {db db₀ : Database}
    (h : (Scripted.driver.prepare call).on db = (.ok stmt, db₀)) :
    db₀.record? stmt.call = some { call := call } ∧ db₀.untyped = db.untyped := by
  rw [Scripted.prepare_on] at h
  split at h
  · cases h
  · cases h
    exact ⟨db.record?_recorded { call := call }, rfl⟩

theorem outputValue_eq (s : Script) (r : CallRecord) (slot : Slot) :
    s.outputValue r.bindings slot = (s.outValues.lookup slot).getD (r.valueAt slot) := by
  unfold Script.outputValue
  cases s.outValues.lookup slot <;> rfl

/-- What the slot reads as: what the script writes into it, else what was put there last. -/
def readValue (s : Script) (slot : Slot)
    (log : List (Preparation × Except BackendError Unit)) : Value :=
  (s.outValues.lookup slot).getD ((accepted slot log).getLast?.getD .null)

/-- How a slot reads after the preparations, which are logged. -/
structure ReadsBack (stmt : Statement) (slot : Slot) (ps : List Preparation)
    (log : List (Preparation × Except BackendError Unit)) (db : Database) : Prop where
  log_eq : log.map Prod.fst = ps
  /-- Only setters are refused, and only at position 0. -/
  accepts : ∀ e ∈ log, e.2 = .ok () ↔ e.1.sets? (.index 0) = none
  registered : Registers slot ps →
    (Scripted.driver.outUntyped stmt slot).on db = (.ok (readValue stmt.script slot log), db)
  unregistered : ¬ Registers slot ps → (Scripted.driver.outUntyped stmt slot).on db =
    (.error ⟨.query, "output parameter " ++ slot.describe ++ " was not registered"⟩, db)
  typed : db.untyped = false → ∀ t,
    (Scripted.driver.outValue stmt slot t).on db = (Scripted.driver.outUntyped stmt slot).on db
  coerced : Registers slot ps → ∀ (out : Registrar) (kind : ScalarKind), out.slot? = some slot →
    (out.readScalar Scripted.driver stmt kind).on db =
      (match (readValue stmt.script slot log).coerce kind with
        | some w => .ok w
        | none => .error (.fault
            (.typeMismatch kind.name (readValue stmt.script slot log).typeName)), db)

section Fresh

variable {db : Database} (hr : db.record? stmt.call = some r)
  (hfresh : r.bindings = [] ∧ r.registered = []) (slot : Slot) (ps : List Preparation)

include hr hfresh

theorem outputOf_update_effects :
    Scripted.outputOf stmt slot (db.update stmt.call (effects ps)) =
      readValue stmt.script slot (ps.map fun p => (p, p.outcome)) := by
  have hrecord := db.record?_update stmt.call (effects ps)
  rw [hr, Option.map_some] at hrecord
  have hnone : r.valueAt slot = .null := by
    rw [CallRecord.valueAt, CallRecord.binding?, hfresh.1]
    rfl
  rw [Scripted.outputOf_eq hrecord, outputValue_eq, valueAt_effects, hnone, readValue]

theorem isRegistered_update_effects :
    ((db.update stmt.call (effects ps)).record? stmt.call).any (·.isRegistered slot) = true ↔
      Registers slot ps := by
  have hnone : r.isRegistered slot = false := by
    rw [CallRecord.isRegistered, hfresh.2]
    rfl
  rw [Database.record?_update, hr, Option.map_some, Option.any_some, isRegistered_effects, hnone]
  simp

theorem readsBack_performAll :
    ReadsBack stmt slot ps (db.run (performAll Scripted.driver stmt ps)).1
      (db.run (performAll Scripted.driver stmt ps)).2 := by
  have hvalue := outputOf_update_effects hr hfresh slot ps
  have hregistered := isRegistered_update_effects hr hfresh slot ps
  rw [run_performAll]
  constructor
  · rw [List.map_map]
    exact List.map_id ps
  · intro e he
    obtain ⟨p, _, rfl⟩ := List.mem_map.mp he
    exact outcome_eq_ok
  · intro h
    rw [Scripted.outUntyped_on (hregistered.mpr h), hvalue]
  · intro h
    refine (Scripted.outUntyped_on_slotOutcome stmt slot _).trans ?_
    rw [Scripted.slotOutcome, Scripted.readOutcome, if_neg (mt hregistered.mp h)]
  · exact fun h t => Scripted.outValue_on h slot t
  · intro h out kind hslot
    have hout := Registrar.registeredIn_of_slot hslot (hregistered.mpr h)
    rw [Registrar.readScalar_on hout kind, Registrar.fromSlot, hslot]
    dsimp only
    rw [hvalue]
    rfl

end Fresh

theorem ReadsBack.outcome_eq {ps ps' : List Preparation}
    {log log' : List (Preparation × Except BackendError Unit)} {db db' : Database}
    (h : ReadsBack stmt slot ps log db) (h' : ReadsBack stmt slot ps' log' db')
    (haccepted : accepted slot log = accepted slot log')
    (hregisters : Registers slot ps ↔ Registers slot ps') :
    ((Scripted.driver.outUntyped stmt slot).on db).1 =
      ((Scripted.driver.outUntyped stmt slot).on db').1 := by
  by_cases hr : Registers slot ps
  · rw [h.registered hr, h'.registered (hregisters.mp hr), readValue, readValue, haccepted]
  · rw [h.unregistered hr, h'.unregistered (mt hregisters.mpr hr)]

theorem register_eq_perform {out : Registrar} {t : SqlType} (h : out.target? = some (slot, t))
    (d : Driver) : out.register d stmt = ((register slot t).perform d stmt).asCall := by
  rw [Registrar.register, h]
  rfl

/-- However a statement was prepared for its execution, a slot can be read exactly if it was
registered, on both kinds of drivers. It reads as the script says, or else as the last of the
setters that were accepted there left it, and nothing else matters. A registrar gives this
value as the kind asked for. -/
theorem bound_value_read_back {call : String} {db db₀ : Database}
    (hprepared : (Scripted.driver.prepare call).on db = (.ok stmt, db₀)) (slot : Slot)
    (ps : List Preparation) :
    let performed := fun ps => db₀.run (performAll Scripted.driver stmt ps)
    let read := fun ps => (Scripted.driver.outUntyped stmt slot).on (performed ps).2
    ReadsBack stmt slot ps (performed ps).1 (performed ps).2 ∧
    (performed ps).2.untyped = db.untyped ∧
    (∀ ps', accepted slot (performed ps').1 = accepted slot (performed ps).1 →
      (Registers slot ps' ↔ Registers slot ps) → (read ps').1 = (read ps).1) ∧
    ∀ (out : Registrar) (t : SqlType), out.target? = some (slot, t) →
      out.register Scripted.driver stmt =
        ((register slot t).perform Scripted.driver stmt).asCall := by
  intro performed read
  obtain ⟨hr, huntyped⟩ := record?_of_prepare hprepared
  have hreads := readsBack_performAll hr ⟨rfl, rfl⟩ slot
  refine ⟨hreads ps, ?_, fun ps' haccepted hregisters => ?_, fun out t h => ?_⟩
  · simp only [performed, run_performAll]
    exact huntyped
  · exact (hreads ps').outcome_eq (hreads ps) haccepted hregisters
  · exact register_eq_perform h _

/-- A slot that is bound twice, the second time after it was registered, beside a refused
setter and a slot that is never registered. -/
theorem bound_value_read_back_rebound :
    let call := "\x7bcall echo(?,?)\x7d"
    let stmt : Statement := ⟨0, {}⟩
    let slot : Slot := .index 1
    let db₀ : Database := { calls := [{ call := call }] }
    let ps : List Preparation :=
      [.setValue slot (.ofText "a"), .register slot .integer, .setNull (.name "p") .varchar,
        .setTyped slot (.scalar (.decimal "7")) .decimal, .setValue (.index 0) .null]
    let after := (db₀.run (performAll Scripted.driver stmt ps)).2
    (Scripted.driver.prepare call).on {} = (.ok stmt, db₀) ∧
      Registers slot ps ∧ ¬ Registers (.name "p") ps ∧
      (Scripted.driver.outUntyped stmt slot).on after = (.ok (.scalar (.decimal "7")), after) ∧
      (Scripted.driver.outUntyped stmt (.name "p")).on after =
        (.error ⟨.query, "output parameter Name(\"p\") was not registered"⟩, after) ∧
      ((Registrar.byIndex 1 .integer).readScalar Scripted.driver stmt (.int .w32)).on after =
        (.ok (.scalar (.int .w32 ⟨7, by decide⟩)), after) := by
  intro call stmt slot db₀ ps after
  have hprepared : (Scripted.driver.prepare call).on {} = (.ok stmt, db₀) := rfl
  have hbound : Registers slot ps := ⟨.integer, by simp [ps]⟩
  have hother : ¬ Registers (.name "p") ps := by
    rintro ⟨t, ht⟩
    simp [ps, slot] at ht
  obtain ⟨hreads, _⟩ := bound_value_read_back hprepared slot ps
  obtain ⟨hfails, _⟩ := bound_value_read_back hprepared (.name "p") ps
  exact ⟨hprepared, hbound, hother, hreads.registered hbound, hfails.unregistered hother,
    hreads.coerced hbound (.byIndex 1 .integer) (.int .w32) rfl⟩

end Preparation

end ProcCall
