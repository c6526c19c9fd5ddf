import ProcCall.Proofs.Call.Course
import ProcCall.Proofs.Call.Phases

/-! # Release passes

A release pass frees every array once and in order, whatever becomes of the frees before. It
fails exactly if one of them does, with the first failure and the later ones flat beside it.
When an array slot is refused, the arrays made for the slots before it go through such a pass,
and the failures of the pass stand flat beside the refusal.
-/

namespace ProcCall.ArrayLease

/-- Such an outcome has a release pass with these failures. -/
structure Closes (failures : List BackendError) (outcome : Except CallError Unit) : Prop where
  succeeds : outcome = .ok () ↔ failures = []
  fails : ∀ e, outcome = .error e → ∃ first late, failures = first :: late ∧
    e.primary = .backend first ∧ e.others = late.map CallError.backend

theorem closes_ofFailures (failures : List BackendError) :
    Closes failures (CallError.ofFailures (failures.map CallError.backend)) := by
  cases failures with
  | nil => exact ⟨by simp [CallError.ofFailures], nofun⟩
  | cons first late =>
    refine ⟨by simp [CallError.ofFailures], ?_⟩
    rintro _ ⟨⟩
    exact ⟨first, late, rfl, CallError.primary_withSuppressed ..,
      CallError.others_withSuppressed ..⟩

section Refusal

variable (d : Driver) (args : List Argument)

/-- Why a slot is refused: its argument is neither an array nor NULL, or the database does not
make the array. -/
inductive RefusedWith (slot : ArraySlot) (db : Database) : Fault → Database → Prop
  | misshaped (h : Misshaped args slot) :
      RefusedWith slot db (.argumentShape slot.argument "array") db
  | failed {elements : List Value} {e : BackendError} {db' : Database}
      (ha : args[slot.argument]? = some (.value (.array elements)))
      (hc : (d.createArray slot.typeName elements).on db = (.error e, db')) :
      RefusedWith slot db (.backend e) db'

/-- Creation gives up at a slot. The arrays of the slots before it were made, and after the
refusal all that is done is to close these. What stands beside the refusal was taken out of the
outcome of the close and is what failed in the pass. -/
inductive GaveUp (before : List ArraySlot) (slot : ArraySlot) (made : List ArrayLease)
    (db : Database) : CallError → Database → Prop
  | intro {db₁ db₂ db' : Database} {f : Fault} {e : CallError} {closing : Except CallError Unit}
      (created : (create d before args).on db = (.ok made, db₁))
      (refused : RefusedWith d args slot db₁ f db₂)
      (closed : ((Holding.ofLeases made).close d).on db₂ = (closing, db'))
      (released : db' = (db₂.run (releases d made)).2) (primary : e.primary = .fault f)
      (attached : e.others = CallError.unpacked closing)
      (others : e.others = (passFailures d made db₂).map CallError.backend) :
      GaveUp before slot made db e db'

variable {d args} {slots : List ArraySlot} {db db' : Database} {leases : List ArrayLease}

/-- The arrays that were made up to a refused slot are those of the slots before it. -/
theorem exists_refusedWith {i : Nat} {e : CallError}
    (h : db.run (make d args slots) = ((leases, some (i, e)), db')) :
    ∃ before slot after db₁ f, slots = before ++ slot :: after ∧
      db.run (make d args before) = ((leases, none), db₁) ∧
      RefusedWith d args slot db₁ f db' ∧ e = .fault f := by
  induction slots generalizing db leases with
  | nil => cases h
  | cons slot rest ih =>
    obtain hv | hm | ⟨elements, ha⟩ := slot_cases args slot
    · rw [hv.make] at h
      obtain ⟨before, refused, after, db₁, f, rfl, hb, hr, he⟩ := ih h
      exact ⟨slot :: before, refused, after, db₁, f, rfl, by rwa [hv.make], hr, he⟩
    · rw [hm.make] at h
      cases h
      exact ⟨[], slot, rest, _, _, rfl, rfl, .misshaped hm, rfl⟩
    · rcases hc : (d.createArray slot.typeName elements).on db with ⟨e' | array, db₀⟩
      · rw [run_make_failed d ha hc] at h
        cases h
        exact ⟨[], slot, rest, _, _, rfl, rfl, .failed ha hc, rfl⟩
      · rcases hrest : db₀.run (make d args rest) with ⟨⟨made, refusal⟩, db₂⟩
        rw [run_make_made d ha hc hrest] at h
        cases h
        obtain ⟨before, refused, after, db₁, f, rfl, hb, hr, he⟩ := ih hrest
        exact ⟨slot :: before, refused, after, db₁, f, rfl, run_make_made d ha hc hb, hr, he⟩

theorem Making.arguments_eq {refusal : Option (Nat × CallError)}
    (h : Making d args slots db leases refusal db') (hr : refusal = none) :
    leases.map ArrayLease.argument = (slots.filter (asks args)).map ArraySlot.argument := by
  induction h with
  | done db => rfl
  | skipped hv _ ih => rw [List.filter_cons_of_neg (by simp [hv.asks_eq_false]), ih hr]
  | misshaped _ => cases hr
  | failed _ _ => cases hr
  | made ha _ _ ih =>
    rw [List.filter_cons_of_pos (asks_of_array ha), List.map_cons, List.map_cons, ih hr]

theorem gaveUp_of_create {e : CallError} (h : (create d slots args).on db = (.error e, db')) :
    ∃ before slot after made, slots = before ++ slot :: after ∧
      made.map ArrayLease.argument = (before.filter (asks args)).map ArraySlot.argument ∧
      GaveUp d args before slot made db e db' := by
  rw [create_on] at h
  rcases hm : db.run (make d args slots) with ⟨⟨made, _ | ⟨i, refusal⟩⟩, db₂⟩ <;> rw [hm] at h
  · cases h
  · cases h
    obtain ⟨before, slot, after, db₁, f, rfl, hb, hr, rfl⟩ := exists_refusedWith hm
    have hmaking := making_make d args before db
    rw [hb] at hmaking
    refine ⟨before, slot, after, made, rfl, hmaking.arguments_eq rfl, ?_⟩
    have hcreated : (create d before args).on db = (.ok made, db₁) := by rw [create_on, hb]
    rw [run_releaseAll]
    have hothers : ((CallError.fault f).withSuppressed
        ((passFailures d made db₂).map CallError.backend)).others =
          (passFailures d made db₂).map CallError.backend := CallError.others_withSuppressed ..
    exact .intro hcreated hr (close_on d made db₂) rfl (CallError.primary_withSuppressed ..)
      (hothers.trans (CallError.unpacked_ofFailures _).symm) hothers

end Refusal

section Scripted

/-- The failures that are set up for the releases of these arrays. -/
def plannedFailures (leases : List ArrayLease) (db : Database) : List BackendError :=
  leases.filterMap fun l => (db.freeFailures.lookup l.array.id).map fun text => ⟨.other, text⟩

/-- Every array has been released once more for each lease of it. -/
def freedAll (leases : List ArrayLease) (db : Database) : Database :=
  { db with
    arrays := db.arrays.mapIdx fun i r =>
      { r with freeCount := r.freeCount + leases.countP fun l => l.array.id == i } }

variable {args : List Argument} {slots before : List ArraySlot} {slot : ArraySlot}
  {db db' : Database} {leases made : List ArrayLease}

theorem freedAll_nil (db : Database) : freedAll [] db = db := by
  have harrays : (freedAll [] db).arrays = db.arrays := by
    refine List.ext_getElem? fun i => ?_
    rw [freedAll, List.getElem?_mapIdx]
    exact Option.map_id'
  simp only [freedAll] at harrays ⊢
  rw [harrays]

theorem freedAll_cons (l : ArrayLease) (rest : List ArrayLease) (db : Database) :
    freedAll (l :: rest) db = freedAll rest (db.freed l.array.id) := by
  have harrays : (freedAll (l :: rest) db).arrays =
      (freedAll rest (db.freed l.array.id)).arrays := by
    refine List.ext_getElem? fun i => ?_
    simp only [freedAll, Database.freed, List.getElem?_mapIdx, List.getElem?_modify,
      List.countP_cons]
    cases db.arrays[i]? with
    | none => rfl
    | some r =>
      by_cases hi : l.array.id = i
      · simp only [hi, beq_self_eq_true, if_true, ArrayRecord.released, Option.map_some,
          Option.map_eq_map, Option.some.injEq, ArrayRecord.mk.injEq, true_and, and_true]
        omega
      · simp [hi]
  simp only [freedAll, Database.freed] at harrays ⊢
  rw [harrays]

theorem releases_snd (leases : List ArrayLease) (db : Database) :
    (db.run (releases Scripted.driver leases)).2 = freedAll leases db := by
  induction leases generalizing db with
  | nil => exact (freedAll_nil db).symm
  | cons l rest ih =>
    rw [freedAll_cons, ← ih, ← Scripted.free_snd db l.array]
    rfl

/-- Of arrays that exist, exactly those are not released that were set up to fail. -/
theorem passFailures_eq (hl : ∀ l ∈ leases, l.array.id < db.arrays.length) :
    passFailures Scripted.driver leases db = plannedFailures leases db := by
  induction leases generalizing db with
  | nil => rfl
  | cons l rest ih =>
    have hrest := @ih (db.freed l.array.id) fun k hk => by
      rw [Database.freed, List.length_modify]
      exact hl k (List.mem_cons_of_mem _ hk)
    have hfree := Scripted.free_on db (hl l List.mem_cons_self)
    rw [passFailures] at hrest
    rw [passFailures, plannedFailures, List.filterMap_cons, releases]
    simp only [Database.run_bind, Action.run_run, hfree, Database.run_pure, List.filterMap_cons,
      hrest, Database.freeOutcome]
    cases db.freeFailures.lookup l.array.id <;> rfl

theorem Making.asked {refusal : Option (Nat × CallError)}
    (h : Making Scripted.driver args slots db leases refusal db') (hr : refusal = none) :
    db'.clientArraysCreated = db.clientArraysCreated + slots.countP (asks args) := by
  induction h with
  | done db => rfl
  | skipped hv _ ih => rw [List.countP_cons_of_neg (by simp [hv.asks_eq_false]), ih hr]
  | misshaped _ => cases hr
  | failed _ _ => cases hr
  | made ha hc _ ih =>
    obtain ⟨-, rfl⟩ := Scripted.eq_of_createArray_ok hc
    rw [List.countP_cons_of_pos (asks_of_array ha), ih hr, Nat.add_comm (List.countP ..),
      ← Nat.add_assoc]
    rfl

theorem RefusedWith.database_eq {f : Fault} (h : RefusedWith Scripted.driver args slot db f db') :
    db' = if asks args slot then db.asked else db := by
  cases h with
  | misshaped h =>
    obtain ⟨a, ha, _, he⟩ := h
    simp [asks, ha, he]
  | failed ha hc =>
    obtain ⟨-, rfl⟩ := Scripted.eq_of_createArray_error hc
    rw [if_pos (asks_of_array ha)]

/-- What giving up leaves on the scripted driver: each array that was made has been released
once, and none was asked for after the refused slot. -/
structure Undone (args : List Argument) (before : List ArraySlot) (slot : ArraySlot)
    (made : List ArrayLease) (db : Database) (e : CallError) (db' : Database) : Prop where
  others : e.others = (plannedFailures made db).map CallError.backend
  arrays : db'.arrays = db.arrays ++ made.map fun l =>
    { data := l.array.data, freeCount := 1, byClient := true }
  requests : db'.clientArraysCreated =
    db.clientArraysCreated + (before ++ [slot]).countP (asks args)
  calls : db'.calls = db.calls

theorem GaveUp.undone {e : CallError}
    (h : GaveUp Scripted.driver args before slot made db e db') :
    Undone args before slot made db e db' := by
  obtain @⟨db₁, db₂, _, _, _, _, created, refused, _, rfl, _, _, others⟩ := h
  have hmaking := making_make Scripted.driver args before db
  rw [create_eq_ok.mp created] at hmaking
  have hm := hmaking.numbered
  -- The refusal touches no array, so the pass finds those that were made.
  have hsame : db₂.arrays = db₁.arrays ∧ db₂.calls = db₁.calls ∧ db₁.SameSetup db₂ := by
    rw [refused.database_eq]
    split
    · exact ⟨rfl, rfl, Database.sameSetup_asked db₁⟩
    · exact ⟨rfl, rfl, .refl db₁⟩
  have harrays : db₂.arrays = db.arrays ++ made.map opened ++ [] := by
    rw [List.append_nil, hsame.1, hm.arrays]
  have hpass := releaseAll_numbered made db₂ harrays (List.length_map _) hm.ids
  rw [run_releaseAll] at hpass
  dsimp only at hpass
  rw [hpass, List.append_nil]
  constructor
  · rw [others, passFailures_eq fun l hl => hsame.1 ▸ hm.id_lt hl, plannedFailures,
      (hm.setup.trans hsame.2.2).freeFailures, plannedFailures]
  · rw [List.map_map]
    rfl
  · have hasked := hmaking.asked rfl
    rw [List.countP_append, ← Nat.add_assoc, ← hasked, refused.database_eq]
    cases ha : asks args slot <;> simp [ha, Database.asked]
  · exact hsame.2.1.trans hm.calls

/-- Closing what is held frees every array once and in order. It succeeds exactly if no free
fails, and otherwise fails with the first failure and the later ones flat beside it. When
creation fails, the arrays made for the slots before the refused one are closed, and the
failures of that are taken out of its error to stand flat beside the refusal. -/
theorem release_pass (args : List Argument) (slots : List ArraySlot) (held : Holding)
    (db : Database) :
    (∀ d : Driver,
      (db.run (releases d held.leases)).1.map Prod.fst = held.leases.map ArrayLease.argument ∧
      ((held.close d).on db).2 = (db.run (releases d held.leases)).2 ∧
      Closes (passFailures d held.leases db) ((held.close d).on db).1) ∧
    ((∀ l ∈ held.leases, l.array.id < db.arrays.length) →
      Closes (plannedFailures held.leases db) ((held.close Scripted.driver).on db).1 ∧
      ((held.close Scripted.driver).on db).2 = freedAll held.leases db) ∧
    (∀ (d : Driver) (e : CallError) (db' : Database),
      (create d slots args).on db = (.error e, db') →
        ∃ before slot after made, slots = before ++ slot :: after ∧
          made.map ArrayLease.argument = (before.filter (asks args)).map ArraySlot.argument ∧
          GaveUp d args before slot made db e db') ∧
    ∀ before slot made e db', GaveUp Scripted.driver args before slot made db e db' →
      Undone args before slot made db e db' := by
  refine ⟨fun d => ?_, fun hl => ?_, fun d e db' he => gaveUp_of_create he,
    fun before slot made e db' h => h.undone⟩
  · rw [held.close_on]
    exact ⟨arguments_releases d held.leases db, rfl, closes_ofFailures _⟩
  · rw [held.close_on, releases_snd, passFailures_eq hl]
    exact ⟨closes_ofFailures _, rfl⟩

/-- A database with two arrays. The next but one that is asked for is not made, and no release
succeeds but the first. -/
def crowded : Database where
  arrays := [{ data := Scripted.clientData "T" [], byClient := true },
    { data := Scripted.clientData "T" [], byClient := true }]
  arrayCreationFailure := some (2, "full")
  freeFailures := [(1, "first"), (2, "second"), (3, "third")]

def crowdedHolding : Holding :=
  .composite
    [⟨0, 0, Scripted.clientData "T" [], true⟩, ⟨1, 1, Scripted.clientData "T" [], true⟩]

/-- The second slot needs no array, the fourth gets none, and the fifth is never asked for. -/
theorem release_pass_crowded :
    let args : List Argument := [.value (.array []), .value .null, .value (.array [.null]),
      .value (.array []), .value (.array [])]
    let slots : List ArraySlot := [⟨0, "A"⟩, ⟨1, "B"⟩, ⟨2, "C"⟩, ⟨3, "D"⟩, ⟨4, "E"⟩]
    let e := CallError.suppressed (.backend ⟨.other, "full"⟩)
      [.backend ⟨.other, "second"⟩, .backend ⟨.other, "third"⟩]
    (∀ l ∈ crowdedHolding.leases, l.array.id < crowded.arrays.length) ∧
      plannedFailures crowdedHolding.leases crowded = [⟨.other, "first"⟩] ∧
      Closes (plannedFailures crowdedHolding.leases crowded)
        ((crowdedHolding.close Scripted.driver).on crowded).1 ∧
      ∃ db', (create Scripted.driver slots args).on crowded = (.error e, db') ∧
        ∃ before slot after made, slots = before ++ slot :: after ∧
          made.map ArrayLease.argument = (before.filter (asks args)).map ArraySlot.argument ∧
          GaveUp Scripted.driver args before slot made crowded e db' ∧
          Undone args before slot made crowded e db' := by
  intro args slots e
  have hl : ∀ l ∈ crowdedHolding.leases, l.array.id < crowded.arrays.length := by decide
  obtain ⟨_, hclose, hcreate, hundone⟩ := release_pass args slots crowdedHolding crowded
  obtain ⟨before, slot, after, made, hs, ha, hgave⟩ := hcreate Scripted.driver e _ rfl
  exact ⟨hl, rfl, (hclose hl).1, _, rfl, before, slot, after, made, hs, ha, hgave,
    hundone before slot made e _ hgave⟩

end Scripted

end ProcCall.ArrayLease
