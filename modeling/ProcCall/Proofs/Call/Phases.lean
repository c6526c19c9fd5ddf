import ProcCall.Proofs.Call.Record

/-! # The phases of a call

Before a call is executed its arrays are made, it is prepared, its arguments are bound and
its output is registered. Each phase begins only when the one before has succeeded, so
what a call leaves says how far it got.
-/

namespace ProcCall

/-- One of the next creations of an array is the one that was set up to fail. -/
def Database.FailsWithin (db : Database) (creations : Nat) : Prop :=
  ∃ n text, db.arrayCreationFailure = some (n, text) ∧ db.clientArraysCreated ≤ n ∧
    n < db.clientArraysCreated + creations

theorem Database.failsWithin_succ {db : Database} {creations : Nat} :
    db.FailsWithin (creations + 1) ↔
      (∃ e, db.createOutcome = .error e) ∨ db.asked.FailsWithin creations := by
  simp only [createOutcome_eq_error]
  constructor
  · rintro ⟨n, text, hf, hle, hlt⟩
    rcases Nat.eq_or_lt_of_le hle with rfl | hgt
    · exact .inl ⟨_, text, hf, rfl⟩
    · exact .inr ⟨n, text, hf, hgt, by simp only [asked]; omega⟩
  · rintro (⟨_, text, hf, rfl⟩ | ⟨n, text, hf, hle, hlt⟩)
    · exact ⟨_, text, hf, Nat.le_refl _, by omega⟩
    · simp only [asked] at hf hle hlt
      exact ⟨n, text, hf, by omega, by omega⟩

namespace ArrayLease

/-! ## Arrays that cannot be made -/

def demand (args : List Argument) (slots : List ArraySlot) : Nat :=
  slots.countP (asks args)

def Refused (args : List Argument) (slots : List ArraySlot) (db : Database) : Prop :=
  (∃ slot ∈ slots, Misshaped args slot) ∨ db.FailsWithin (demand args slots)

variable {args : List Argument} {slot : ArraySlot} {slots : List ArraySlot} {db db' : Database}
  {leases : List ArrayLease}

theorem refused_nil : ¬ Refused args [] db := by
  rintro (⟨_, hs, _⟩ | ⟨n, _, _, hle, hlt⟩)
  · cases hs
  · exact Nat.not_lt.mpr hle hlt

theorem refused_of_misshaped (h : Misshaped args slot) : Refused args (slot :: slots) db :=
  .inl ⟨slot, List.mem_cons_self, h⟩

theorem refused_vacant (hv : Vacant args slot) :
    Refused args (slot :: slots) db ↔ Refused args slots db := by
  have hm : ¬ Misshaped args slot := by
    rcases hv with h | h <;> simp [Misshaped, h]
  simp [Refused, demand, hm, hv.asks_eq_false]

theorem refused_array {elements : List Value} (data : ArrayData)
    (ha : args[slot.argument]? = some (.value (.array elements))) :
    Refused args (slot :: slots) db ↔
      (∃ e, db.createOutcome = .error e) ∨ Refused args slots (db.asked.tracked data true) := by
  have hm : ¬ Misshaped args slot := by
    rintro ⟨a, h, _, he⟩
    cases ha.symm.trans h
    cases he
  have hcount : demand args (slot :: slots) = demand args slots + 1 :=
    List.countP_cons_of_pos (asks_of_array ha)
  rw [Refused, hcount, Database.failsWithin_succ, Refused, or_left_comm]
  simp only [List.mem_cons, exists_eq_or_imp, hm, false_or]
  rfl

theorem isSome_refusal :
    (db.run (make Scripted.driver args slots)).1.2.isSome = true ↔ Refused args slots db := by
  induction slots generalizing db with
  | nil => simp [make, refused_nil]
  | cons slot rest ih =>
    obtain hv | hm | ⟨elements, ha⟩ := slot_cases args slot
    · rw [hv.make, refused_vacant hv]
      exact ih
    · rw [hm.make]
      exact iff_of_true rfl (refused_of_misshaped hm)
    · have hcreate := Scripted.createArray_on db slot.typeName elements
      rw [refused_array (Scripted.clientData slot.typeName elements) ha]
      rcases ho : db.createOutcome with e | ⟨⟩ <;> rw [ho] at hcreate
      · rw [run_make_failed Scripted.driver ha hcreate]
        exact iff_of_true rfl (.inl ⟨e, rfl⟩)
      · rw [run_make_made Scripted.driver ha hcreate rfl]
        exact ih.trans (or_iff_right (by simp)).symm

theorem exists_create_error :
    (∃ e, ((create Scripted.driver slots args).on db).1 = .error e) ↔ Refused args slots db := by
  rw [← isSome_refusal, create_on]
  rcases db.run (make Scripted.driver args slots) with ⟨⟨made, _ | ⟨i, e⟩⟩, db₁⟩ <;> simp

theorem settles_create_error {e : CallError}
    (h : (create Scripted.driver slots args).on db = (.error e, db')) : db.Settles [] db' := by
  have hm := (making_make Scripted.driver args slots db).numbered
  rw [create_on] at h
  rcases hr : db.run (make Scripted.driver args slots) with ⟨⟨made, _ | ⟨i, e'⟩⟩, db₁⟩ <;>
    rw [hr] at hm h
  · cases h
  · cases h
    exact hm.settles (.refl db₁)

end ArrayLease

/-! ## The phases -/

namespace Descriptor

variable (x : Descriptor) (args : List Argument) (db : Database)

/-- The arrays of the call were made, and the call was prepared. -/
def Prepared (leases : List ArrayLease) (stmt : Statement) (db' : Database) : Prop :=
  ∃ db₁, (ArrayLease.create Scripted.driver x.arraySlots args).on db = (.ok leases, db₁) ∧
    (Scripted.driver.prepare x.callString).on db₁ = (.ok stmt, db')

/-- All that comes before the execution has succeeded. -/
def Launched : Prop :=
  ∃ leases stmt db₂ db₃ db₄, x.Prepared args db leases stmt db₂ ∧
    (x.inputs.bind Scripted.driver stmt args leases).on db₂ = (.ok (), db₃) ∧
    (x.output.register Scripted.driver stmt).on db₃ = (.ok (), db₄)

variable {x args db} {leases : List ArrayLease} {stmt : Statement} {db' : Database}

theorem prepared_iff :
    x.Prepared args db leases stmt db' ↔
      ∃ db₁, db.run (ArrayLease.make Scripted.driver args x.arraySlots) = ((leases, none), db₁) ∧
        (db.script x.callString).prepareError = none ∧
        stmt = ⟨db.calls.length, db.script x.callString⟩ ∧ db' = db₁.begun x.callString := by
  unfold Prepared
  refine exists_congr fun db₁ => ?_
  rw [ArrayLease.create_eq_ok, Scripted.prepare_on]
  refine and_congr_right fun hr => ?_
  have hm := (ArrayLease.making_make Scripted.driver args x.arraySlots db).numbered
  rw [hr] at hm
  rw [hm.setup.script, hm.calls]
  rcases (db.script x.callString).prepareError with _ | e
  · simp [eq_comm]
  · simp

theorem Prepared.making (h : x.Prepared args db leases stmt db') :
    ∃ db₁, ArrayLease.Making Scripted.driver args x.arraySlots db leases none db₁ := by
  obtain ⟨db₁, hr, _⟩ := prepared_iff.mp h
  have hm := ArrayLease.making_make Scripted.driver args x.arraySlots db
  rw [hr] at hm
  exact ⟨db₁, hm⟩

theorem invocationRecord?_eq_some {r : CallRecord} :
    x.invocationRecord? args db = some r ↔
      ∃ leases stmt db', x.Prepared args db leases stmt db' ∧
        r = x.record args leases (db.script x.callString) := by
  simp only [prepared_iff, invocationRecord?, record?]
  rcases db.run (ArrayLease.make Scripted.driver args x.arraySlots) with
    ⟨⟨leases, _ | ⟨i, e⟩⟩, db₁⟩
  · rcases (db.script x.callString).prepareError with _ | e
    · constructor
      · rintro ⟨⟩
        exact ⟨leases, _, _, ⟨db₁, rfl, rfl, rfl, rfl⟩, rfl⟩
      · rintro ⟨leases', _, _, ⟨_, hr, _⟩, rfl⟩
        cases hr
        rfl
    · simp
  · simp

theorem Prepared.invocationRecord? (h : x.Prepared args db leases stmt db') :
    x.invocationRecord? args db = some (x.record args leases (db.script x.callString)) :=
  invocationRecord?_eq_some.mpr ⟨leases, stmt, db', h, rfl⟩

theorem invocationRecord?_of_prepare_error {db₁ db₂ : Database} {e : BackendError}
    (hcreate : (ArrayLease.create Scripted.driver x.arraySlots args).on db = (.ok leases, db₁))
    (hprepare : (Scripted.driver.prepare x.callString).on db₁ = (.error e, db₂)) :
    x.invocationRecord? args db = none := by
  rcases hr : x.invocationRecord? args db with _ | r
  · rfl
  · obtain ⟨_, _, _, ⟨_, hcreate', hprepare'⟩, _⟩ := invocationRecord?_eq_some.mp hr
    cases hcreate.symm.trans hcreate'
    cases hprepare.symm.trans hprepare'

theorem invoke_on_create_error {d : Driver} {e : CallError}
    (h : (ArrayLease.create d x.arraySlots args).on db = (.error e, db')) :
    (x.invoke d args).on db = (.error (x.wrap e), db') := by
  rw [invoke, Action.on_adapt, Action.on_bind, h]
  rfl

theorem executed_record {s : Script} :
    (x.record args leases s).executed = true ↔ (x.inputs.entries args leases).2 = none := by
  rw [record, openRecord]
  cases (x.inputs.entries args leases).2 <;> simp [Extractor.startRecord]

theorem launched_iff :
    x.Launched args db ↔ ∃ r, x.invocationRecord? args db = some r ∧ r.executed = true := by
  simp only [Launched, invocationRecord?_eq_some]
  constructor
  · rintro ⟨leases, stmt, db₂, _, _, hprepared, hbind, _⟩
    rw [Binder.bind_on] at hbind
    have hentries := Binder.outcome_eq_ok.mp (congrArg Prod.fst hbind)
    exact ⟨_, ⟨leases, stmt, db₂, hprepared, rfl⟩, executed_record.mpr hentries⟩
  · rintro ⟨_, ⟨leases, stmt, db₂, hprepared, rfl⟩, he⟩
    have hbind := x.inputs.bind_on stmt args leases db₂
    rw [executed_record.mp he] at hbind
    exact ⟨leases, stmt, db₂, _, _, hprepared, hbind, Registrar.register_on ..⟩

end Descriptor

end ProcCall
