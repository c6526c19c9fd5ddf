import Mathlib.Data.List.Forall2
import ProcCall.Proofs.Call.Record

/-! # Calls on quiet databases

When no creation and no release of an array fails, a call has the same outcome and the
same record whatever calls and arrays the database knows. All that differs is how the
arrays are numbered.
-/

namespace ProcCall

namespace Database

/-- No creation and no release of an array fails. -/
structure Quiet (db : Database) : Prop where
  creations : db.arrayCreationFailure = none
  releases : db.freeFailures = []

variable {db db' : Database}

theorem SameSetup.quiet (h : db.SameSetup db') (hq : db.Quiet) : db'.Quiet :=
  ⟨h.arrayCreationFailure.trans hq.creations, h.freeFailures.trans hq.releases⟩

theorem Quiet.createOutcome (h : db.Quiet) : db.createOutcome = .ok () := by
  rw [Database.createOutcome, h.creations]
  rfl

theorem Quiet.freeOutcome (h : db.Quiet) (i : Nat) : db.freeOutcome i = .ok () := by
  rw [Database.freeOutcome, h.releases]
  rfl

theorem Quiet.returnOutcome (h : db.Quiet) (array : Option ArrayData) :
    db.returnOutcome array = .ok () := by
  cases array with
  | none => rfl
  | some data => rw [Database.returnOutcome, h.freeOutcome]; rfl

end Database

namespace ArrayLease

/-! ## Arrays -/

/-- The same arrays for the same arguments, perhaps numbered differently. -/
def Alike : List ArrayLease → List ArrayLease → Prop :=
  List.Forall₂ fun l₁ l₂ => l₁.argument = l₂.argument ∧ l₁.array.data = l₂.array.data

variable {leases leases₁ leases₂ : List ArrayLease} {args : List Argument} {db db₁ db₂ : Database}

theorem Alike.arrayFor? (h : Alike leases₁ leases₂) (i : Nat) :
    (ArrayLease.arrayFor? leases₁ i).map ArrayHandle.data =
      (ArrayLease.arrayFor? leases₂ i).map ArrayHandle.data := by
  unfold ArrayLease.arrayFor?
  induction h with
  | nil => rfl
  | cons hl _ ih =>
    rw [List.find?_cons, List.find?_cons, hl.1]
    split
    · exact congrArg some hl.2
    · exact ih

theorem createArray_quiet (h : db.Quiet) (typeName : String) (elements : List Value) :
    (Scripted.driver.createArray typeName elements).on db =
      (.ok ⟨db.arrays.length, Scripted.clientData typeName elements, true⟩,
        db.asked.tracked (Scripted.clientData typeName elements) true) := by
  rw [Scripted.createArray_on, h.createOutcome]

theorem make_alike (h₁ : db₁.Quiet) (h₂ : db₂.Quiet) (slots : List ArraySlot) :
    Alike (db₁.run (make Scripted.driver args slots)).1.1
        (db₂.run (make Scripted.driver args slots)).1.1 ∧
      (db₁.run (make Scripted.driver args slots)).1.2 =
        (db₂.run (make Scripted.driver args slots)).1.2 := by
  induction slots generalizing db₁ db₂ with
  | nil => exact ⟨.nil, rfl⟩
  | cons slot rest ih =>
    obtain hv | hm | ⟨elements, ha⟩ := slot_cases args slot
    · rw [hv.make]
      exact ih h₁ h₂
    · rw [hm.make]
      exact ⟨.nil, rfl⟩
    · have hrest := @ih (db₁.asked.tracked (Scripted.clientData slot.typeName elements) true)
        (db₂.asked.tracked (Scripted.clientData slot.typeName elements) true)
        ⟨h₁.creations, h₁.releases⟩ ⟨h₂.creations, h₂.releases⟩
      rw [run_make_made Scripted.driver ha (createArray_quiet h₁ slot.typeName elements) rfl,
        run_make_made Scripted.driver ha (createArray_quiet h₂ slot.typeName elements) rfl]
      exact ⟨hrest.1.cons ⟨rfl, rfl⟩, hrest.2⟩

theorem releaseAll_quiet (h : db.Quiet) (hl : ∀ l ∈ leases, l.array.id < db.arrays.length) :
    (db.run (releaseAll Scripted.driver leases)).1 = [] := by
  refine List.eq_nil_iff_forall_not_mem.mpr fun e he => ?_
  obtain ⟨i, text, hf, _⟩ := mem_freeFailures_of_releaseAll hl he
  rw [h.releases] at hf
  cases hf

end ArrayLease

/-! ## Calls -/

theorem Binder.entry_congr {b : Binder} {array₁ array₂ : Option ArrayHandle}
    (h : array₁.map ArrayHandle.data = array₂.map ArrayHandle.data) (i : Nat) (a : Argument) :
    b.entry array₁ i a = b.entry array₂ i a := by
  rcases array₁ with _ | array₁ <;> rcases array₂ with _ | array₂
  · rfl
  · cases h
  · cases h
  · have hd : array₁.data = array₂.data := Option.some.inj h
    simp only [entry, hd]

theorem Binder.entriesFrom_alike {b : Binder} {leases₁ leases₂ : List ArrayLease}
    (h : ArrayLease.Alike leases₁ leases₂) (i : Nat) (args : List Argument) :
    b.entriesFrom leases₁ i args = b.entriesFrom leases₂ i args := by
  induction args generalizing i with
  | nil => rfl
  | cons a rest ih => rw [entriesFrom, entriesFrom, entry_congr (h.arrayFor? i), ih]

/-- What is bound does not depend on how the arrays are numbered. -/
theorem Binder.entries_alike {b : Binder} {leases₁ leases₂ : List ArrayLease}
    (h : ArrayLease.Alike leases₁ leases₂) (args : List Argument) :
    b.entries args leases₁ = b.entries args leases₂ := by
  unfold entries
  split
  · exact entriesFrom_alike h 0 args
  · rfl

namespace Descriptor

variable (x : Descriptor) {args : List Argument} {db db₁ db₂ : Database}

def outcome (args : List Argument) (made : List ArrayLease × Option (Nat × CallError))
    (s : Script) : Except CallError Value :=
  match made.2, s.prepareError with
  | some (_, e), _ => .error e
  | none, some e => .error (.backend e)
  | none, none => mergeRelease (x.answer args made.1 s).1 s.closeOutcome

theorem invoke_quiet (h : db.Quiet) :
    ((x.invoke Scripted.driver args).on db).1 =
      (x.outcome args (db.run (ArrayLease.make Scripted.driver args x.arraySlots)).1
        (db.script x.callString)).mapError x.wrap := by
  have hm := (ArrayLease.making_make Scripted.driver args x.arraySlots db).numbered
  rw [invoke_on, outcome]
  rcases hr : db.run (ArrayLease.make Scripted.driver args x.arraySlots) with
    ⟨⟨leases, _ | ⟨i, e⟩⟩, db₁⟩ <;> rw [hr] at hm
  · have hq := hm.setup.quiet h
    have hs := hm.setup.script x.callString
    have hreleased : (((x.execute Scripted.driver args leases).on db₁).2.run
        (ArrayLease.releaseAll Scripted.driver leases)).1 = [] := by
      -- No array is lost during the call, so the releases find those that were made.
      refine ArrayLease.releaseAll_quiet ((x.sameSetup_execute args leases db₁).quiet hq) ?_
      intro l hl
      exact Nat.lt_of_lt_of_le (hm.id_lt hl) (x.settles_execute args leases db₁).length_arrays
    dsimp only
    rw [hreleased, CallError.ofFailures, Extractor.mergeRelease_ok, execute_on, hs]
    rcases (db.script x.callString).prepareError with _ | e
    · dsimp only
      rw [hq.returnOutcome, Extractor.mergeRelease_ok]
    · rfl
  · have hreleased := ArrayLease.releaseAll_quiet (hm.setup.quiet h) fun l hl => hm.id_lt hl
    dsimp only
    rw [hreleased]
    rfl

/-- On quiet databases with the same scripts a call has the same outcome and record. -/
theorem invoke_alike (h₁ : db₁.Quiet) (h₂ : db₂.Quiet) (hs : db₁.scripts = db₂.scripts) :
    ((x.invoke Scripted.driver args).on db₁).1 = ((x.invoke Scripted.driver args).on db₂).1 ∧
      x.invocationRecord? args db₁ = x.invocationRecord? args db₂ := by
  obtain ⟨hl, hr⟩ := @ArrayLease.make_alike args db₁ db₂ h₁ h₂ x.arraySlots
  have hscript := Database.script_congr hs x.callString
  rw [x.invoke_quiet h₁, x.invoke_quiet h₂, invocationRecord?, invocationRecord?, hscript]
  generalize (db₁.run (ArrayLease.make Scripted.driver args x.arraySlots)).1 = made₁ at hl hr ⊢
  generalize (db₂.run (ArrayLease.make Scripted.driver args x.arraySlots)).1 = made₂ at hl hr ⊢
  obtain ⟨leases₁, refused₁⟩ := made₁
  obtain ⟨leases₂, refused₂⟩ := made₂
  obtain rfl : refused₁ = refused₂ := hr
  have hentries : x.inputs.entries args leases₁ = x.inputs.entries args leases₂ :=
    Binder.entries_alike hl args
  rcases refused₁ with _ | ⟨i, e⟩
  · simp only [outcome, answer, record?, record, openRecord, hentries, and_self]
  · exact ⟨rfl, rfl⟩

end Descriptor

end ProcCall
