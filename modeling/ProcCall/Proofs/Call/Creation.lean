import ProcCall.Proofs.Failures
import ProcCall.Proofs.Scripted.Steps

/-! # Making and releasing arrays

Creation is making the arrays up to the first slot that is refused, and closing what was made
if there is one. Closing takes one pass over the arrays, and the error of a pass gives its
failures back. On the scripted driver the arrays made get the next numbers, and a release of
all of them adds one to the count of each.
-/

namespace ProcCall

namespace Argument

def elements? : Argument → Option (List Value)
  | value (.array elements) => some elements
  | _ => none

theorem elements?_eq_some {a : Argument} {elements : List Value} :
    a.elements? = some elements ↔ a = .value (.array elements) := by
  rcases a with (_ | _ | _) | _ <;> simp [elements?]

end Argument

def backendFailure : Except BackendError Unit → Option BackendError
  | .error e => some e
  | .ok () => none

namespace ArrayLease

section Slots

variable (args : List Argument) (slot : ArraySlot)

/-- No array is needed for the slot: its argument is missing or NULL. -/
def Vacant : Prop :=
  args[slot.argument]? = none ∨ args[slot.argument]? = some (.value .null)

/-- The argument of the slot is neither an array nor NULL. -/
def Misshaped : Prop :=
  ∃ a, args[slot.argument]? = some a ∧ a ≠ .value .null ∧ a.elements? = none

/-- The slot asks for an array. -/
def asks : Bool := (args[slot.argument]?.bind Argument.elements?).isSome

theorem slot_cases :
    Vacant args slot ∨ Misshaped args slot ∨
      ∃ elements, args[slot.argument]? = some (.value (.array elements)) := by
  unfold Vacant Misshaped
  rcases args[slot.argument]? with _ | (_ | _ | elements) | _ <;> simp [Argument.elements?]

variable {args slot}

theorem Vacant.ne_array (h : Vacant args slot) (elements : List Value) :
    args[slot.argument]? ≠ some (.value (.array elements)) := by
  rcases h with h | h <;> simp [h]

theorem Vacant.asks_eq_false (h : Vacant args slot) : asks args slot = false := by
  rcases h with h | h <;> simp [asks, h, Argument.elements?]

theorem asks_of_array {elements : List Value}
    (ha : args[slot.argument]? = some (.value (.array elements))) : asks args slot = true := by
  simp [asks, ha, Argument.elements?]

end Slots

section Making

variable (d : Driver) (args : List Argument)

/-- Makes the arrays of the slots up to the first that is refused, and gives the argument
of that slot with the cause. -/
def make : List ArraySlot → StateM Database (List ArrayLease × Option (Nat × CallError))
  | [] => pure ([], none)
  | slot :: rest =>
    match args[slot.argument]? with
    | some (.value (.array elements)) => do
      match ← (d.createArray slot.typeName elements).run with
      | .ok array =>
        let (made, refusal) ← make rest
        pure (⟨slot.argument, array⟩ :: made, refusal)
      | .error e => pure ([], some (slot.argument, .backend e))
    | none | some (.value .null) => make rest
    | some _ => pure ([], some (slot.argument, .fault (.argumentShape slot.argument "array")))

theorem createFrom_on (made : List ArrayLease) (slots : List ArraySlot) (db : Database) :
    (createFrom d args made slots).on db =
      match db.run (make d args slots) with
      | ((leases, none), db') => (.ok (made ++ leases), db')
      | ((leases, some (_, e)), db') => (abandon d (made ++ leases) e).on db' := by
  induction slots generalizing made db with
  | nil => simp [createFrom, make]
  | cons slot rest ih =>
    rcases ha : args[slot.argument]? with _ | (_ | _ | elements) | _ <;>
      simp only [createFrom, make, ha, List.append_nil, Database.run_pure, ih]
    simp only [Action.on_bind, Action.on_lift, Database.run_bind, Action.run_run]
    rcases (d.createArray slot.typeName elements).on db with ⟨_ | array, db'⟩
    · simp
    · simp only [ih, Database.run_bind, Database.run_pure, List.append_assoc, List.singleton_append]
      rcases db'.run (make d args rest) with ⟨⟨leases, _ | ⟨_, _⟩⟩, _⟩ <;> rfl

section Cons

variable {args} {slot : ArraySlot} (slots : List ArraySlot)

theorem Vacant.make (h : Vacant args slot) :
    make d args (slot :: slots) = make d args slots := by
  rcases h with h | h <;> simp [ArrayLease.make, h]

theorem Misshaped.make (h : Misshaped args slot) :
    make d args (slot :: slots) =
      pure ([], some (slot.argument, .fault (.argumentShape slot.argument "array"))) := by
  obtain ⟨a, ha, hn, he⟩ := h
  rcases a with (_ | _ | _) | _ <;> simp_all [ArrayLease.make, Argument.elements?]

variable {slots} {elements : List Value} {db db₁ db' : Database}

theorem run_make_failed {e : BackendError}
    (ha : args[slot.argument]? = some (.value (.array elements)))
    (hc : (d.createArray slot.typeName elements).on db = (.error e, db₁)) :
    db.run (make d args (slot :: slots)) = (([], some (slot.argument, .backend e)), db₁) := by
  simp only [make, ha, Database.run_bind, Action.run_run, hc]
  rfl

theorem run_make_made {array : ArrayHandle} {leases : List ArrayLease}
    {refusal : Option (Nat × CallError)}
    (ha : args[slot.argument]? = some (.value (.array elements)))
    (hc : (d.createArray slot.typeName elements).on db = (.ok array, db₁))
    (hrest : db₁.run (make d args slots) = ((leases, refusal), db')) :
    db.run (make d args (slot :: slots)) = ((⟨slot.argument, array⟩ :: leases, refusal), db') := by
  simp only [make, ha, Database.run_bind, Action.run_run, hc, hrest]
  rfl

end Cons

/-- How arrays are made for the slots, step by step. -/
inductive Making : List ArraySlot → Database → List ArrayLease → Option (Nat × CallError) →
    Database → Prop
  | done (db : Database) : Making [] db [] none db
  | skipped {slot : ArraySlot} {rest : List ArraySlot} {db db' : Database}
      {leases : List ArrayLease} {refusal : Option (Nat × CallError)} (hv : Vacant args slot)
      (h : Making rest db leases refusal db') : Making (slot :: rest) db leases refusal db'
  | misshaped {slot : ArraySlot} {rest : List ArraySlot} {db : Database}
      (hm : Misshaped args slot) :
      Making (slot :: rest) db []
        (some (slot.argument, .fault (.argumentShape slot.argument "array"))) db
  | failed {slot : ArraySlot} {rest : List ArraySlot} {db db' : Database} {elements : List Value}
      {e : BackendError} (ha : args[slot.argument]? = some (.value (.array elements)))
      (hc : (d.createArray slot.typeName elements).on db = (.error e, db')) :
      Making (slot :: rest) db [] (some (slot.argument, .backend e)) db'
  | made {slot : ArraySlot} {rest : List ArraySlot} {db db₁ db' : Database}
      {elements : List Value} {array : ArrayHandle} {leases : List ArrayLease}
      {refusal : Option (Nat × CallError)}
      (ha : args[slot.argument]? = some (.value (.array elements)))
      (hc : (d.createArray slot.typeName elements).on db = (.ok array, db₁))
      (h : Making rest db₁ leases refusal db') :
      Making (slot :: rest) db (⟨slot.argument, array⟩ :: leases) refusal db'

theorem making_make (slots : List ArraySlot) (db : Database) :
    Making d args slots db (db.run (make d args slots)).1.1 (db.run (make d args slots)).1.2
      (db.run (make d args slots)).2 := by
  induction slots generalizing db with
  | nil => exact .done db
  | cons slot rest ih =>
    obtain hv | hm | ⟨elements, ha⟩ := slot_cases args slot
    · rw [hv.make]
      exact .skipped hv (ih db)
    · rw [hm.make]
      exact .misshaped hm
    · rcases hc : (d.createArray slot.typeName elements).on db with ⟨e | array, db₁⟩
      · rw [run_make_failed d ha hc]
        exact .failed ha hc
      · rw [run_make_made d ha hc rfl]
        exact .made ha hc (ih db₁)

variable {d args} {slots : List ArraySlot} {db db' : Database} {leases : List ArrayLease}
  {refusal : Option (Nat × CallError)}

theorem Making.exists_lease (h : Making d args slots db leases refusal db') (hr : refusal = none)
    {slot : ArraySlot} (hs : slot ∈ slots) {elements : List Value}
    (ha : args[slot.argument]? = some (.value (.array elements))) :
    ∃ l ∈ leases, l.argument = slot.argument := by
  induction h with
  | done db => cases hs
  | skipped hv _ ih =>
    rcases List.mem_cons.mp hs with rfl | hs
    · exact absurd ha (hv.ne_array elements)
    · exact ih hr hs
  | misshaped _ => cases hr
  | failed _ _ => cases hr
  | made _ _ _ ih =>
    rcases List.mem_cons.mp hs with rfl | hs
    · exact ⟨_, List.mem_cons_self, rfl⟩
    · obtain ⟨l, hl, hi⟩ := ih hr hs
      exact ⟨l, List.mem_cons_of_mem _ hl, hi⟩

theorem Making.arguments (h : Making d args slots db leases refusal db') :
    (leases.map ArrayLease.argument ++ refusal.toList.map Prod.fst).Sublist
      (slots.map ArraySlot.argument) := by
  induction h with
  | done db => exact .slnil
  | skipped _ _ ih => exact ih.cons _
  | misshaped _ => exact (List.nil_sublist _).cons_cons _
  | failed _ _ => exact (List.nil_sublist _).cons_cons _
  | made _ _ _ ih => exact ih.cons_cons _

end Making

section Releasing

variable (d : Driver)

/-- Releases every array, in order, and gives for each its argument and the failure. -/
def releases : List ArrayLease → StateM Database (List (Nat × Option BackendError))
  | [] => pure []
  | l :: rest => do
    let released ← (d.free l.array).run
    let later ← releases rest
    pure ((l.argument, backendFailure released) :: later)

/-- The failures of a release pass, in order. -/
def passFailures (leases : List ArrayLease) (db : Database) : List BackendError :=
  (db.run (releases d leases)).1.filterMap Prod.snd

theorem run_releaseAll (leases : List ArrayLease) (db : Database) :
    db.run (releaseAll d leases) =
      ((passFailures d leases db).map CallError.backend, (db.run (releases d leases)).2) := by
  induction leases generalizing db with
  | nil => rfl
  | cons l rest ih =>
    simp only [passFailures, releases, releaseAll, Database.run_bind, Action.run_run, ih]
    rcases (d.free l.array).on db with ⟨e | ⟨⟩, db'⟩ <;> rfl

/-- Closing a holding of any shape is a pass over its arrays. -/
theorem Holding.close_eq (held : Holding) :
    held.close d = ExceptT.mk (CallError.ofFailures <$> releaseAll d held.leases) := by
  cases held <;> rfl

theorem Holding.close_on (held : Holding) (db : Database) :
    (held.close d).on db =
      (CallError.ofFailures ((passFailures d held.leases db).map CallError.backend),
        (db.run (releases d held.leases)).2) := by
  have hpass := run_releaseAll d held.leases db
  rw [held.close_eq]
  exact congrArg (Prod.map CallError.ofFailures id) hpass

theorem close_run (leases : List ArrayLease) (db : Database) :
    (close d leases).on db =
      (CallError.ofFailures (db.run (releaseAll d leases)).1,
        (db.run (releaseAll d leases)).2) := by
  rw [close, Holding.close_eq, Holding.leases_ofLeases]
  rfl

theorem close_on (leases : List ArrayLease) (db : Database) :
    (close d leases).on db =
      (CallError.ofFailures ((passFailures d leases db).map CallError.backend),
        (db.run (releases d leases)).2) := by
  rw [close, Holding.close_on, Holding.leases_ofLeases]

/-- The error of a pass gives the failures back, all of them and in order. -/
theorem unpacked_close (leases : List ArrayLease) (db : Database) :
    CallError.unpacked ((close d leases).on db).1 =
      (passFailures d leases db).map CallError.backend := by
  rw [close_on, CallError.unpacked_ofFailures]

/-- Giving up closes what was made and takes the failures out of the outcome. -/
theorem abandon_unpacked (made : List ArrayLease) (e : CallError) (db : Database) :
    (abandon d made e).on db =
      (.error (e.withSuppressed (CallError.unpacked ((close d made).on db).1)),
        ((close d made).on db).2) := by
  change db.run ((close d made).run >>= _) = _
  rw [Database.run_bind, Action.run_run]
  rcases (close d made).on db with ⟨release | ⟨⟩, db'⟩ <;> rfl

theorem abandon_on (made : List ArrayLease) (e : CallError) (db : Database) :
    (abandon d made e).on db =
      (.error (e.withSuppressed (db.run (releaseAll d made)).1),
        (db.run (releaseAll d made)).2) := by
  rw [abandon_unpacked, unpacked_close, close_on, run_releaseAll]

variable {args : List Argument} {slots : List ArraySlot} {leases : List ArrayLease}
  {db db' : Database}

theorem create_on :
    (create d slots args).on db =
      match db.run (make d args slots) with
      | ((leases, none), db') => (.ok leases, db')
      | ((leases, some (_, e)), db') =>
        (.error (e.withSuppressed (db'.run (releaseAll d leases)).1),
          (db'.run (releaseAll d leases)).2) := by
  rw [create, createFrom_on]
  rcases db.run (make d args slots) with ⟨⟨leases, _ | ⟨i, e⟩⟩, db'⟩
  · rfl
  · exact abandon_on d leases e db'

variable {d}

theorem create_eq_ok :
    (create d slots args).on db = (.ok leases, db') ↔
      db.run (make d args slots) = ((leases, none), db') := by
  rw [create_on]
  rcases db.run (make d args slots) with ⟨⟨made, _ | ⟨i, e⟩⟩, db₁⟩ <;> simp

end Releasing

section Finding

variable {leases : List ArrayLease} {i : Nat}

theorem mem_of_arrayFor? {array : ArrayHandle} (h : arrayFor? leases i = some array) :
    ∃ l ∈ leases, l.argument = i ∧ l.array = array := by
  obtain ⟨l, hl, ha⟩ := Option.map_eq_some_iff.mp h
  have hi := List.find?_some hl
  exact ⟨l, List.mem_of_find?_eq_some hl, beq_iff_eq.mp hi, ha⟩

theorem argument_ne_of_arrayFor? (h : arrayFor? leases i = none) :
    ∀ l ∈ leases, l.argument ≠ i := by
  intro l hl hi
  have hn := List.find?_eq_none.mp (Option.map_eq_none_iff.mp h) l hl
  exact hn (beq_iff_eq.mpr hi)

end Finding

section Numbering

def opened (l : ArrayLease) : ArrayRecord := { data := l.array.data, byClient := true }

/-- The leases are the arrays that were added to the database, in order. -/
structure Made (db : Database) (leases : List ArrayLease) (db' : Database) : Prop where
  setup : db.SameSetup db'
  calls : db'.calls = db.calls
  arrays : db'.arrays = db.arrays ++ leases.map opened
  ids : leases.map (·.array.id) = List.range' db.arrays.length leases.length

variable {args : List Argument} {slots : List ArraySlot} {db db' : Database}
  {leases : List ArrayLease} {refusal : Option (Nat × CallError)}

theorem Making.slot_of_mem (h : Making Scripted.driver args slots db leases refusal db')
    {l : ArrayLease} (hl : l ∈ leases) :
    ∃ slot ∈ slots, ∃ elements, args[slot.argument]? = some (.value (.array elements)) ∧
      l.argument = slot.argument ∧ l.array.data = Scripted.clientData slot.typeName elements := by
  induction h with
  | done db => cases hl
  | skipped _ _ ih =>
    obtain ⟨s, hs, hl⟩ := ih hl
    exact ⟨s, List.mem_cons_of_mem _ hs, hl⟩
  | misshaped _ => cases hl
  | failed _ _ => cases hl
  | made ha hc _ ih =>
    rcases List.mem_cons.mp hl with rfl | hl
    · obtain ⟨rfl, -⟩ := Scripted.eq_of_createArray_ok hc
      exact ⟨_, List.mem_cons_self, _, ha, rfl, rfl⟩
    · obtain ⟨s, hs, hl⟩ := ih hl
      exact ⟨s, List.mem_cons_of_mem _ hs, hl⟩

theorem Making.numbered (h : Making Scripted.driver args slots db leases refusal db') :
    Made db leases db' := by
  induction h with
  | done db => exact ⟨.refl db, rfl, (List.append_nil _).symm, rfl⟩
  | skipped _ _ ih => exact ih
  | misshaped _ => exact ⟨.refl _, rfl, (List.append_nil _).symm, rfl⟩
  | failed _ hc =>
    obtain ⟨-, rfl⟩ := Scripted.eq_of_createArray_error hc
    exact ⟨Database.sameSetup_asked _, rfl, (List.append_nil _).symm, rfl⟩
  | made _ hc _ ih =>
    obtain ⟨rfl, rfl⟩ := Scripted.eq_of_createArray_ok hc
    obtain ⟨hs, hcalls, hr, hi⟩ := ih
    refine ⟨((Database.sameSetup_asked _).trans (Database.sameSetup_tracked ..)).trans hs, hcalls,
      ?_, ?_⟩
    · simpa [opened] using hr
    · simpa [List.range'_succ] using hi

theorem Made.id_lt {db db' : Database} {leases : List ArrayLease} (h : Made db leases db')
    {l : ArrayLease} (hl : l ∈ leases) : l.array.id < db'.arrays.length := by
  have hid : l.array.id ∈ List.range' db.arrays.length leases.length :=
    h.ids ▸ List.mem_map_of_mem (f := fun l : ArrayLease => l.array.id) hl
  rw [h.arrays, List.length_append, List.length_map]
  exact (List.mem_range'_1.mp hid).2

/-- A release of all arrays that were added after `before` adds one to the count of each. -/
theorem releaseAll_numbered (leases : List ArrayLease) (db : Database)
    {before own after : List ArrayRecord} (ha : db.arrays = before ++ own ++ after)
    (hl : own.length = leases.length)
    (hi : leases.map (·.array.id) = List.range' before.length leases.length) :
    (db.run (releaseAll Scripted.driver leases)).2 =
      { db with arrays := before ++ own.map ArrayRecord.released ++ after } := by
  induction leases generalizing db before own with
  | nil =>
    obtain rfl : own = [] := List.length_eq_zero_iff.mp hl
    rw [List.map_nil, ← ha]
    rfl
  | cons l rest ih =>
    obtain ⟨r, own, rfl⟩ := List.exists_cons_of_length_eq_add_one hl
    simp only [List.map_cons, List.length_cons, List.range'_succ, List.cons.injEq] at hi
    have hlt : l.array.id < db.arrays.length := by rw [hi.1, ha]; simp
    have hf : (db.freed l.array.id).arrays =
        (before ++ [r.released]) ++ own ++ after := by
      simp [Database.freed, ha, hi.1, Database.modify_middle]
    have ih := ih (db.freed l.array.id) hf (by simpa using hl) (by simpa using hi.2)
    simp only [releaseAll, Database.run_bind, Action.run_run]
    rw [Scripted.free_on db hlt]
    cases db.freeOutcome l.array.id <;>
      simpa [Database.freed] using ih

theorem Made.settles {db db₁ db₂ : Database} {leases : List ArrayLease}
    {records : List CallRecord} (hm : Made db leases db₁) (hs : db₁.Settles records db₂) :
    db.Settles records (db₂.run (releaseAll Scripted.driver leases)).2 := by
  obtain ⟨hc, new, hn, ha⟩ := hs
  rw [hm.arrays] at ha
  rw [releaseAll_numbered leases db₂ ha (by simp) hm.ids]
  refine ⟨by rw [hc, hm.calls], (leases.map opened).map ArrayRecord.released ++ new, ?_, by simp⟩
  intro a h
  rcases List.mem_append.mp h with h | h
  · obtain ⟨r, hr, rfl⟩ := List.mem_map.mp h
    obtain ⟨l, _, rfl⟩ := List.mem_map.mp hr
    rfl
  · exact hn a h

theorem releaseAll_cons (l : ArrayLease) (rest : List ArrayLease) (db : Database) :
    db.run (releaseAll Scripted.driver (l :: rest)) =
      match ((Scripted.driver.free l.array).on db).1,
        ((db.freed l.array.id).run (releaseAll Scripted.driver rest)) with
      | .ok (), released => released
      | .error e, (failures, db') => (.backend e :: failures, db') := by
  rw [← Scripted.free_snd db l.array]
  simp only [releaseAll, Database.run_bind, Action.run_run]
  cases ((Scripted.driver.free l.array).on db).1 <;> rfl

theorem mem_freeFailures_of_releaseAll {leases : List ArrayLease} {db : Database}
    (hl : ∀ l ∈ leases, l.array.id < db.arrays.length) {e : CallError}
    (he : e ∈ (db.run (releaseAll Scripted.driver leases)).1) :
    ∃ i text, (i, text) ∈ db.freeFailures ∧ e = .backend ⟨.other, text⟩ := by
  induction leases generalizing db with
  | nil => cases he
  | cons l rest ih =>
    have hrest := @ih (db.freed l.array.id) fun k hk => by
      rw [Database.freed, List.length_modify]
      exact hl k (List.mem_cons_of_mem _ hk)
    rw [releaseAll_cons, Scripted.free_on db (hl l List.mem_cons_self)] at he
    rcases ho : db.freeOutcome l.array.id with e' | ⟨⟩ <;> rw [ho] at he
    · rcases List.mem_cons.mp he with rfl | he
      · obtain ⟨text, ht, rfl⟩ := Database.freeOutcome_eq_error.mp ho
        obtain ⟨before, after, hf, _⟩ := List.lookup_eq_some_iff.mp ht
        exact ⟨l.array.id, text, by simp [hf], rfl⟩
      · exact hrest he
    · exact hrest he

theorem sameSetup_releaseAll (leases : List ArrayLease) (db : Database) :
    db.SameSetup (db.run (releaseAll Scripted.driver leases)).2 := by
  induction leases generalizing db with
  | nil => exact .refl db
  | cons l rest ih =>
    rw [releaseAll_cons]
    cases ((Scripted.driver.free l.array).on db).1 <;>
      exact (db.sameSetup_freed l.array.id).trans (ih _)

theorem releaseAll_update (leases : List ArrayLease) (db : Database) (i : Nat)
    (f : CallRecord → CallRecord) :
    (db.update i f).run (releaseAll Scripted.driver leases) =
      ((db.run (releaseAll Scripted.driver leases)).1,
        (db.run (releaseAll Scripted.driver leases)).2.update i f) := by
  induction leases generalizing db with
  | nil => rfl
  | cons l rest ih =>
    have hfreed : (db.update i f).freed l.array.id = (db.freed l.array.id).update i f := rfl
    rw [releaseAll_cons, releaseAll_cons, Scripted.free_update, hfreed, ih]
    cases ((Scripted.driver.free l.array).on db).1 <;> rfl

end Numbering

end ProcCall.ArrayLease
