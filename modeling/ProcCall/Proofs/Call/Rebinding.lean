import ProcCall.Proofs.Call.Record

/-! # Calls under another binder

Two binders that bind the same arguments, one by position and the other by name perhaps,
refuse the same argument. The calls then differ in what is bound at the slots, which only
shows in the bindings of the record, unless the output slot is one of them and gives
back what was bound to it.
-/

namespace ProcCall

namespace Binder

/-! ## Entries -/

variable {b b₁ b₂ : Binder} {array : Option ArrayHandle} {leases : List ArrayLease} {i : Nat}
  {a : Argument} {args : List Argument}

theorem slot?_of_entry {e : Slot × Binding} (h : b.entry array i a = .ok (some e)) :
    b.slot? i = some e.1 := by
  have hat {slot : Slot} {v : Binding} (h : (entryAt slot v).map some = .ok (some e)) :
      slot = e.1 := by
    unfold entryAt at h
    split at h
    · cases h
    · rw [← Option.some.inj (Except.ok.inj h)]
  unfold entry at h
  split at h
  · cases h
  · rename_i slot hs
    rw [hs]
    split at h
    · rw [hat h]
    · rw [hat h]
    · cases h

theorem slot?_of_mem_entriesFrom {e : Slot × Binding}
    (h : e ∈ (b.entriesFrom leases i args).1) : ∃ j, b.slot? j = some e.1 := by
  induction args generalizing i with
  | nil => cases h
  | cons a rest ih =>
    rw [entriesFrom] at h
    rcases he : b.entry (ArrayLease.arrayFor? leases i) i a with _ | first <;> rw [he] at h
    · cases h
    · rcases List.mem_append.mp h with h | h
      · rw [Option.mem_toList] at h
        obtain rfl := Option.mem_def.mp h
        exact ⟨i, slot?_of_entry he⟩
      · exact ih h

/-- The binders bind the same arguments, none of them at position 0. -/
structure SameArguments (b₁ b₂ : Binder) : Prop where
  usesArrays : b₁.usesArrays = b₂.usesArrays
  slots : ∀ i, (b₁.slot? i).isSome = (b₂.slot? i).isSome
  left : ∀ i, b₁.slot? i ≠ some (.index 0)
  right : ∀ i, b₂.slot? i ≠ some (.index 0)

theorem SameArguments.entry (h : SameArguments b₁ b₂) {e : CallError} :
    b₁.entry array i a = .error e ↔ b₂.entry array i a = .error e := by
  rw [entry_eq_error (h.left i), entry_eq_error (h.right i), h.slots]

theorem SameArguments.entriesFrom (h : SameArguments b₁ b₂) (leases : List ArrayLease) (i : Nat)
    (args : List Argument) :
    (b₁.entriesFrom leases i args).2 = (b₂.entriesFrom leases i args).2 := by
  induction args generalizing i with
  | nil => rfl
  | cons a rest ih =>
    -- Either both binders refuse this argument or the rest decides.
    rw [Binder.entriesFrom, Binder.entriesFrom]
    rcases h₁ : b₁.entry (ArrayLease.arrayFor? leases i) i a with e | e₁
    · rw [h.entry.mp h₁]
    · rcases h₂ : b₂.entry (ArrayLease.arrayFor? leases i) i a with e | e₂
      · cases h₁.symm.trans (h.entry.mpr h₂)
      · exact ih (i + 1)

theorem SameArguments.entries (h : SameArguments b₁ b₂) (args : List Argument)
    (leases : List ArrayLease) : (b₁.entries args leases).2 = (b₂.entries args leases).2 := by
  rw [Binder.entries, Binder.entries, h.usesArrays]
  exact h.entriesFrom _ 0 args

end Binder

/-! ## The output slot -/

theorem Script.outputValue_unbound (s : Script) {bound : List (Slot × Binding)} {slot : Slot}
    (h : ∀ e ∈ bound, e.1 ≠ slot) :
    s.outputValue bound slot = (s.outValues.lookup slot).getD .null := by
  have hb : bound.reverse.lookup slot = none := by
    refine List.lookup_eq_none_iff.mpr fun e he => ?_
    exact bne_iff_ne.mpr fun hs => h e (List.mem_reverse.mp he) hs.symm
  rw [outputValue, hb]
  cases s.outValues.lookup slot <;> rfl

theorem Script.outputValue_scripted (s : Script) (bound : List (Slot × Binding)) {slot : Slot}
    (h : (s.outValues.lookup slot).isSome = true) :
    s.outputValue bound slot = (s.outValues.lookup slot).getD .null := by
  obtain ⟨v, hv⟩ := Option.isSome_iff_exists.mp h
  rw [outputValue, hv]
  rfl

/-- Of what was bound the answer depends only on the value in the output slot. -/
theorem Extractor.answer_congr {s : Script} {out : Registrar} {bound₁ bound₂ : List (Slot × Binding)}
    (h : ∀ slot ∈ out.slot?, s.outputValue bound₁ slot = s.outputValue bound₂ slot)
    (args : List Argument) (rows : Option RowSet) (x : Extractor) :
    x.answer s out bound₁ args rows = x.answer s out bound₂ args rows := by
  cases x with
  | scalar kind =>
    cases rows with
    | some rows => rfl
    | none =>
      unfold answer Registrar.fromSlot
      rcases hs : out.slot? with _ | slot
      · rfl
      · dsimp only
        rw [h slot hs]
  | _ => rfl

/-! ## Calls -/

def CallRecord.unbound (r : CallRecord) : CallRecord := { r with bindings := [] }

namespace Descriptor

def withInputs (x : Descriptor) (b : Binder) : Descriptor := { x with inputs := b }

/-- The binder binds the same arguments as that of the descriptor, and neither binds at the
output slot unless the script has a value for it. -/
structure Interchangeable (s : Script) (x : Descriptor) (b : Binder) : Prop where
  inputs : x.inputs.SameArguments b
  output : ∀ slot ∈ x.output.slot?, (s.outValues.lookup slot).isSome = true ∨
    ∀ i, x.inputs.slot? i ≠ some slot ∧ b.slot? i ≠ some slot

variable {s : Script} {x : Descriptor} {b : Binder} {args : List Argument}
  {leases : List ArrayLease}

theorem Interchangeable.outputValue (h : Interchangeable s x b) {slot : Slot}
    (hs : slot ∈ x.output.slot?) :
    s.outputValue (b.entries args leases).1 slot =
      s.outputValue (x.inputs.entries args leases).1 slot := by
  -- A slot gives back what was bound to it only if nothing is scripted for it.
  rcases h.output slot hs with hscripted | hunbound
  · rw [s.outputValue_scripted _ hscripted, s.outputValue_scripted _ hscripted]
  · rw [s.outputValue_unbound, s.outputValue_unbound]
    · rintro e he rfl
      obtain ⟨j, hj⟩ := Binder.slot?_of_mem_entriesFrom he
      exact (hunbound j).1 hj
    · rintro e he rfl
      obtain ⟨j, hj⟩ := Binder.slot?_of_mem_entriesFrom he
      exact (hunbound j).2 hj

theorem Interchangeable.answer (h : Interchangeable s x b) :
    (x.withInputs b).answer args leases s = x.answer args leases s := by
  unfold Descriptor.answer withInputs
  dsimp only
  rw [h.inputs.entries args leases]
  split
  · rfl
  · rfl
  · exact Extractor.answer_congr (fun slot hs => h.outputValue hs) args _ _

theorem Interchangeable.record (h : Interchangeable s x b) :
    ((x.withInputs b).record args leases s).unbound = (x.record args leases s).unbound := by
  unfold Descriptor.record openRecord withInputs
  dsimp only
  rw [h.inputs.entries args leases]
  split <;> rfl

theorem wrapPrimary_withInputs (x : Descriptor) (b : Binder) : (e : CallError) →
    (x.withInputs b).wrapPrimary e = x.wrapPrimary e
  | .fault f => by cases f <;> rfl
  | .suppressed p others => by
    rw [wrapPrimary, wrapPrimary, wrapPrimary_withInputs x b p]

theorem wrap_withInputs (x : Descriptor) (b : Binder) : (x.withInputs b).wrap = x.wrap := by
  funext e
  rw [wrap, wrap, wrapPrimary_withInputs]
  rfl

theorem unbound_recorded_returned (db : Database) (r : CallRecord) (array : Option ArrayData) :
    ((db.recorded r).returned array).update db.calls.length CallRecord.unbound =
      (db.recorded r.unbound).returned array := by
  rw [Database.returned_update, Database.recorded_update]

theorem Interchangeable.execute {db : Database}
    (h : Interchangeable (db.script x.callString) x b) :
    (((x.withInputs b).execute Scripted.driver args leases).on db).1 =
        ((x.execute Scripted.driver args leases).on db).1 ∧
      (((x.withInputs b).execute Scripted.driver args leases).on db).2.update db.calls.length
          CallRecord.unbound =
        ((x.execute Scripted.driver args leases).on db).2.update db.calls.length
          CallRecord.unbound := by
  have hcall : (x.withInputs b).callString = x.callString := rfl
  rw [execute_on, execute_on, hcall, h.answer]
  rcases (db.script x.callString).prepareError with _ | e
  · refine ⟨rfl, ?_⟩
    dsimp only
    rw [unbound_recorded_returned, unbound_recorded_returned, h.record]
  · exact ⟨rfl, rfl⟩

/-- An invocation under an interchangeable binder gives the same, and the databases differ in
what was bound only. -/
theorem Interchangeable.invoke {db : Database} (args : List Argument)
    (h : Interchangeable (db.script x.callString) x b) :
    (((x.withInputs b).invoke Scripted.driver args).on db).1 =
        ((x.invoke Scripted.driver args).on db).1 ∧
      (((x.withInputs b).invoke Scripted.driver args).on db).2.update db.calls.length
          CallRecord.unbound =
        ((x.invoke Scripted.driver args).on db).2.update db.calls.length
          CallRecord.unbound := by
  have hm := (ArrayLease.making_make Scripted.driver args x.arraySlots db).numbered
  have hslots : (x.withInputs b).arraySlots = x.arraySlots := rfl
  rw [invoke_on, invoke_on, hslots, wrap_withInputs]
  rcases hr : db.run (ArrayLease.make Scripted.driver args x.arraySlots) with
    ⟨⟨leases, _ | ⟨i, e⟩⟩, db₁⟩ <;> rw [hr] at hm
  · have hscript := hm.setup.script x.callString
    have hx : Interchangeable (db₁.script x.callString) x b := by rwa [hscript]
    obtain ⟨houtcome, hleft⟩ := @Interchangeable.execute x b args leases db₁ hx
    rw [hm.calls] at hleft
    -- The releases do not look at the calls, so the bindings can be dropped before them.
    have hreleased (db' : Database) :=
      ArrayLease.releaseAll_update leases db' db.calls.length CallRecord.unbound
    have hfirst := hreleased (((x.withInputs b).execute Scripted.driver args leases).on db₁).2
    rw [hleft, hreleased, Prod.mk.injEq] at hfirst
    dsimp only
    rw [houtcome, hfirst.1, hfirst.2]
    exact ⟨rfl, rfl⟩
  · exact ⟨rfl, rfl⟩

end Descriptor

end ProcCall
