import Mathlib.Data.List.Nodup
import ProcCall.Proofs.Call.Release

/-! # Array handles

When the arrays of a call have been made, each array argument that has a slot finds the array
that was made for it, from its own elements, and no other argument finds one. It makes no
difference that the slots of NULL and missing arguments were passed over, and in which shape
the arrays are held.
-/

namespace ProcCall

structure ArrayRequest where
  argument : Nat
  typeName : String
  elements : List Value

namespace ArrayRequest

def ofSlot? (args : List Argument) (slot : ArraySlot) : Option ArrayRequest :=
  (args[slot.argument]?.bind Argument.elements?).map fun elements =>
    ⟨slot.argument, slot.typeName, elements⟩

def make (d : Driver) (r : ArrayRequest) : Action BackendError ArrayHandle :=
  d.createArray r.typeName r.elements

def lease (r : ArrayRequest) (id : Nat) : ArrayLease :=
  ⟨r.argument, id, Scripted.clientData r.typeName r.elements, true⟩

def record (r : ArrayRequest) : ArrayRecord :=
  { data := Scripted.clientData r.typeName r.elements, byClient := true }

end ArrayRequest

namespace ArrayLease

def requests (args : List Argument) (slots : List ArraySlot) : List ArrayRequest :=
  slots.filterMap (ArrayRequest.ofSlot? args)

section Holding

variable {leases : List ArrayLease}

theorem Holding.length_ofLeases : (Holding.ofLeases leases).length = leases.length := by
  match leases with
  | [] => rfl
  | [_] => rfl
  | _ :: _ :: _ => rfl

theorem arrayFor?_of_mem (hn : (leases.map ArrayLease.argument).Nodup) {l : ArrayLease}
    (hl : l ∈ leases) : arrayFor? leases l.argument = some l.array := by
  rcases hf : arrayFor? leases l.argument with _ | array
  · exact absurd rfl (argument_ne_of_arrayFor? hf l hl)
  · obtain ⟨k, hk, hi, rfl⟩ := mem_of_arrayFor? hf
    rw [List.inj_on_of_nodup_map hn hk hl hi]

theorem isSome_arrayFor? {i : Nat} :
    (arrayFor? leases i).isSome = true ↔ i ∈ leases.map ArrayLease.argument := by
  rw [arrayFor?, Option.isSome_map, List.find?_isSome]
  simp

end Holding

section Requests

variable {args : List Argument} {slot : ArraySlot} {slots : List ArraySlot}

theorem requests_vacant (h : Vacant args slot) :
    requests args (slot :: slots) = requests args slots := by
  rcases h with h | h <;> simp [requests, ArrayRequest.ofSlot?, h, Argument.elements?]

theorem requests_array {elements : List Value}
    (ha : args[slot.argument]? = some (.value (.array elements))) :
    requests args (slot :: slots) =
      ⟨slot.argument, slot.typeName, elements⟩ :: requests args slots := by
  simp [requests, ArrayRequest.ofSlot?, ha, Argument.elements?]

theorem mem_requests {r : ArrayRequest} :
    r ∈ requests args slots ↔ ∃ slot ∈ slots, slot.argument = r.argument ∧
      slot.typeName = r.typeName ∧ args[slot.argument]? = some (.value (.array r.elements)) := by
  simp only [requests, List.mem_filterMap, ArrayRequest.ofSlot?, Option.map_eq_some_iff,
    Option.bind_eq_some_iff, Argument.elements?_eq_some]
  constructor
  · rintro ⟨slot, hs, elements, ⟨_, ha, rfl⟩, rfl⟩
    exact ⟨slot, hs, rfl, rfl, ha⟩
  · rintro ⟨slot, hs, hi, ht, ha⟩
    exact ⟨slot, hs, r.elements, ⟨_, ha, rfl⟩, by rw [hi, ht]⟩

theorem asks_iff :
    asks args slot = true ↔ ∃ elements, args[slot.argument]? = some (.value (.array elements)) := by
  simp only [asks, Option.isSome_iff_exists, Option.bind_eq_some_iff, Argument.elements?_eq_some,
    exists_eq_right]

theorem arguments_requests (args : List Argument) (slots : List ArraySlot) :
    (requests args slots).map ArrayRequest.argument =
      (slots.filter (asks args)).map ArraySlot.argument := by
  induction slots with
  | nil => rfl
  | cons slot slots ih =>
    rw [requests] at ih ⊢
    rcases he : args[slot.argument]?.bind Argument.elements? with _ | elements <;>
      simp [ArrayRequest.ofSlot?, asks, he, ih]

theorem length_requests : (requests args slots).length = slots.countP (asks args) := by
  rw [← List.length_map ArrayRequest.argument, arguments_requests, List.length_map,
    List.countP_eq_length_filter]

end Requests

section Creating

variable {d : Driver} {args : List Argument} {slot : ArraySlot} {slots : List ArraySlot}
  {leases : List ArrayLease} {db db' : Database}

/-- A run of creation that succeeds passes over the first slot, or makes its array first. -/
theorem create_cons_cases (h : (create d (slot :: slots) args).on db = (.ok leases, db')) :
    (Vacant args slot ∧ (create d slots args).on db = (.ok leases, db')) ∨
      ∃ elements array db₁ rest, args[slot.argument]? = some (.value (.array elements)) ∧
        (d.createArray slot.typeName elements).on db = (.ok array, db₁) ∧
        (create d slots args).on db₁ = (.ok rest, db') ∧
        leases = ⟨slot.argument, array⟩ :: rest := by
  simp only [create_eq_ok] at h ⊢
  obtain hv | hm | ⟨elements, ha⟩ := slot_cases args slot
  · rw [hv.make] at h
    exact .inl ⟨hv, h⟩
  · rw [hm.make] at h
    cases h
  · rcases hc : (d.createArray slot.typeName elements).on db with ⟨e | array, db₁⟩
    · rw [run_make_failed d ha hc] at h
      cases h
    · rcases hrest : db₁.run (make d args slots) with ⟨⟨rest, refusal⟩, db₂⟩
      rw [run_make_made d ha hc hrest] at h
      cases h
      exact .inr ⟨elements, array, db₁, rest, ha, hc, hrest, rfl⟩

theorem eq_of_create_nil (h : (create d [] args).on db = (.ok leases, db')) :
    leases = [] ∧ db' = db := by
  cases h
  exact ⟨rfl, rfl⟩

theorem create_vacant (hv : Vacant args slot)
    (h : (create d slots args).on db = (.ok leases, db')) :
    (create d (slot :: slots) args).on db = (.ok leases, db') := by
  rw [create_eq_ok] at h ⊢
  rw [hv.make, h]

theorem create_array {elements : List Value} {array : ArrayHandle} {db₁ : Database}
    (ha : args[slot.argument]? = some (.value (.array elements)))
    (hc : (d.createArray slot.typeName elements).on db = (.ok array, db₁))
    (h : (create d slots args).on db₁ = (.ok leases, db')) :
    (create d (slot :: slots) args).on db = (.ok (⟨slot.argument, array⟩ :: leases), db') := by
  rw [create_eq_ok] at h ⊢
  exact run_make_made d ha hc h

/-- Creation asks for the arrays of the requests one after the other, and for nothing else. -/
theorem requests_on (h : (create d slots args).on db = (.ok leases, db')) :
    ((requests args slots).mapM (ArrayRequest.make d)).on db =
      (.ok (leases.map ArrayLease.array), db') := by
  induction slots generalizing db leases with
  | nil =>
    obtain ⟨rfl, rfl⟩ := eq_of_create_nil h
    rfl
  | cons slot slots ih =>
    obtain ⟨hv, h⟩ | ⟨elements, array, db₁, rest, ha, hc, hrest, rfl⟩ := create_cons_cases h
    · rw [requests_vacant hv, ih h]
    · have hmake : (ArrayRequest.make d ⟨slot.argument, slot.typeName, elements⟩).on db =
          (.ok array, db₁) := hc
      rw [requests_array ha, List.mapM_cons, Action.on_bind_ok hmake, Action.on_bind_ok (ih hrest)]
      rfl

theorem vacant_or_array (h : (create d slots args).on db = (.ok leases, db')) (hs : slot ∈ slots) :
    Vacant args slot ∨ ∃ elements, args[slot.argument]? = some (.value (.array elements)) := by
  induction slots generalizing db leases with
  | nil => cases hs
  | cons first slots ih =>
    obtain ⟨hv, h⟩ | ⟨elements, _, _, _, ha, _, hrest, rfl⟩ := create_cons_cases h
    · rcases List.mem_cons.mp hs with rfl | hs
      · exact .inl hv
      · exact ih h hs
    · rcases List.mem_cons.mp hs with rfl | hs
      · exact .inr ⟨elements, ha⟩
      · exact ih hrest hs

theorem arguments_of_create (h : (create d slots args).on db = (.ok leases, db')) :
    leases.map ArrayLease.argument = (slots.filter (asks args)).map ArraySlot.argument := by
  have hm := making_make d args slots db
  rw [create_eq_ok.mp h] at hm
  exact hm.arguments_eq rfl

/-- The array was made for the slot, from the elements of its argument, after the arrays of
the slots before it and before those of the slots after it. -/
inductive MadeFor (d : Driver) (args : List Argument) (slot : ArraySlot) (array : ArrayHandle) :
    List ArraySlot → Database → List ArrayLease → Database → Prop
  | intro {before after : List ArraySlot} {made rest : List ArrayLease} {elements : List Value}
      {db db₁ db₂ db' : Database}
      (ha : args[slot.argument]? = some (.value (.array elements)))
      (hbefore : (create d before args).on db = (.ok made, db₁))
      (hc : (d.createArray slot.typeName elements).on db₁ = (.ok array, db₂))
      (hafter : (create d after args).on db₂ = (.ok rest, db')) :
      MadeFor d args slot array (before ++ slot :: after) db
        (made ++ ⟨slot.argument, array⟩ :: rest) db'

theorem MadeFor.mem {array : ArrayHandle} (h : MadeFor d args slot array slots db leases db') :
    ⟨slot.argument, array⟩ ∈ leases := by
  cases h
  exact List.mem_append_right _ List.mem_cons_self

theorem MadeFor.passed {first : ArraySlot} {array : ArrayHandle} (hv : Vacant args first)
    (h : MadeFor d args slot array slots db leases db') :
    MadeFor d args slot array (first :: slots) db leases db' := by
  obtain ⟨ha, hbefore, hc, hafter⟩ := h
  rw [← List.cons_append]
  exact .intro ha (create_vacant hv hbefore) hc hafter

theorem MadeFor.later {first : ArraySlot} {elements : List Value} {array other : ArrayHandle}
    {db₁ : Database} (hfirst : args[first.argument]? = some (.value (.array elements)))
    (hmake : (d.createArray first.typeName elements).on db = (.ok other, db₁))
    (h : MadeFor d args slot array slots db₁ leases db') :
    MadeFor d args slot array (first :: slots) db (⟨first.argument, other⟩ :: leases) db' := by
  obtain ⟨ha, hbefore, hc, hafter⟩ := h
  rw [← List.cons_append, ← List.cons_append]
  exact .intro ha (create_array hfirst hmake hbefore) hc hafter

theorem exists_madeFor (h : (create d slots args).on db = (.ok leases, db')) (hs : slot ∈ slots)
    {elements : List Value} (ha : args[slot.argument]? = some (.value (.array elements))) :
    ∃ array, MadeFor d args slot array slots db leases db' := by
  induction slots generalizing db leases with
  | nil => cases hs
  | cons first slots ih =>
    obtain ⟨hv, h⟩ | ⟨elements', other, db₁, rest, hfirst, hc, hrest, rfl⟩ := create_cons_cases h
    · rcases List.mem_cons.mp hs with rfl | hs
      · exact absurd hv (by simp [Vacant, ha])
      · obtain ⟨array, hmade⟩ := ih h hs
        exact ⟨array, hmade.passed hv⟩
    · rcases List.mem_cons.mp hs with rfl | hs
      · refine ⟨other, ?_⟩
        rw [← List.nil_append (slot :: slots), ← List.nil_append (_ :: rest)]
        exact .intro hfirst rfl hc hrest
      · obtain ⟨array, hmade⟩ := ih hrest hs
        exact ⟨array, hmade.later hfirst hc⟩

end Creating

section Serving

variable {args : List Argument} {slots : List ArraySlot} {leases : List ArrayLease}
  {db db' : Database}

/-- Each array argument of a slot is served by the array that was made for it. -/
structure Serves (d : Driver) (args : List Argument) (slots : List ArraySlot) (db : Database)
    (leases : List ArrayLease) (db' : Database) : Prop where
  requested : ((requests args slots).mapM (ArrayRequest.make d)).on db =
    (.ok (leases.map ArrayLease.array), db')
  arguments : leases.map ArrayLease.argument = (requests args slots).map ArrayRequest.argument
  count : (Holding.ofLeases leases).length =
    slots.countP fun slot => ((Holding.ofLeases leases).arrayFor? slot.argument).isSome
  found : ∀ i, ((Holding.ofLeases leases).arrayFor? i).isSome = true ↔
    ∃ slot ∈ slots, slot.argument = i ∧ ∃ elements, args[i]? = some (.value (.array elements))
  served : ∀ slot ∈ slots, ∀ array,
    (Holding.ofLeases leases).arrayFor? slot.argument = some array →
      MadeFor d args slot array slots db leases db'
  passed : ∀ slot ∈ slots,
    (Holding.ofLeases leases).arrayFor? slot.argument = none ↔ Vacant args slot

theorem serves_of_create {d : Driver} (hn : (slots.map ArraySlot.argument).Nodup)
    (h : (create d slots args).on db = (.ok leases, db')) :
    Serves d args slots db leases db' := by
  have harguments : leases.map ArrayLease.argument =
      (requests args slots).map ArrayRequest.argument := by
    rw [arguments_of_create h, arguments_requests]
  have hnodup : (leases.map ArrayLease.argument).Nodup := by
    rw [arguments_of_create h]
    exact (List.filter_sublist.map ArraySlot.argument).nodup hn
  have hfound : ∀ i, ((Holding.ofLeases leases).arrayFor? i).isSome = true ↔
      ∃ slot ∈ slots, slot.argument = i ∧
        ∃ elements, args[i]? = some (.value (.array elements)) := by
    intro i
    rw [Holding.arrayFor?_ofLeases, isSome_arrayFor?, harguments]
    simp only [List.mem_map, mem_requests]
    constructor
    · rintro ⟨r, ⟨slot, hs, hi, _, ha⟩, rfl⟩
      exact ⟨slot, hs, hi, r.elements, hi ▸ ha⟩
    · rintro ⟨slot, hs, rfl, elements, ha⟩
      exact ⟨⟨slot.argument, slot.typeName, elements⟩, ⟨slot, hs, rfl, rfl, ha⟩, rfl⟩
  refine ⟨requests_on h, harguments, ?_, hfound, ?_, ?_⟩
  · rw [Holding.length_ofLeases, ← List.length_map ArrayLease.argument, harguments,
      List.length_map, length_requests]
    refine List.countP_congr fun slot hs => ?_
    rw [hfound, asks_iff]
    constructor
    · exact fun harray => ⟨slot, hs, rfl, harray⟩
    · exact fun ⟨_, _, _, harray⟩ => harray
  · intro slot hs array harray
    obtain ⟨_, _, _, elements, ha⟩ := (hfound slot.argument).mp (by rw [harray]; rfl)
    obtain ⟨array', hmade⟩ := exists_madeFor h hs ha
    have hlookup := arrayFor?_of_mem hnodup hmade.mem
    rw [Holding.arrayFor?_ofLeases, hlookup] at harray
    cases harray
    exact hmade
  · intro slot hs
    rw [← Option.not_isSome_iff_eq_none, hfound]
    constructor
    · intro hnone
      obtain hv | harray := vacant_or_array h hs
      · exact hv
      · exact absurd ⟨slot, hs, rfl, harray⟩ hnone
    · rintro hv ⟨_, _, _, elements, ha⟩
      rcases hv with hv | hv <;> cases ha.symm.trans hv

end Serving

section Recording

variable {args : List Argument} {slot : ArraySlot} {slots : List ArraySlot}
  {leases : List ArrayLease} {db db' : Database}

def granted (rs : List ArrayRequest) (db : Database) : Database :=
  { db with
    arrays := db.arrays ++ rs.map ArrayRequest.record
    clientArraysCreated := db.clientArraysCreated + rs.length }

def leasesFrom (first : Nat) (rs : List ArrayRequest) : List ArrayLease :=
  rs.mapIdx fun k r => r.lease (first + k)

theorem leasesFrom_cons (first : Nat) (r : ArrayRequest) (rs : List ArrayRequest) :
    leasesFrom first (r :: rs) = r.lease first :: leasesFrom (first + 1) rs := by
  simp only [leasesFrom, List.mapIdx_cons, Nat.add_zero, Nat.add_right_comm _ 1, Nat.add_assoc]

theorem granted_cons (r : ArrayRequest) (rs : List ArrayRequest) (db : Database) :
    granted (r :: rs) db =
      granted rs (db.asked.tracked (Scripted.clientData r.typeName r.elements) true) := by
  simp [granted, Database.asked, Database.tracked, ArrayRequest.record, Nat.add_comm,
    Nat.add_left_comm]

theorem granted_of_create (h : (create Scripted.driver slots args).on db = (.ok leases, db')) :
    leases = leasesFrom db.arrays.length (requests args slots) ∧
      db' = granted (requests args slots) db := by
  induction slots generalizing db leases with
  | nil =>
    obtain ⟨rfl, rfl⟩ := eq_of_create_nil h
    exact ⟨rfl, by simp [granted, requests]⟩
  | cons slot slots ih =>
    obtain ⟨hv, h⟩ | ⟨elements, array, db₁, rest, ha, hc, hrest, rfl⟩ := create_cons_cases h
    · rw [requests_vacant hv]
      exact ih h
    · obtain ⟨rfl, rfl⟩ := Scripted.eq_of_createArray_ok hc
      obtain ⟨rfl, rfl⟩ := ih hrest
      rw [requests_array ha, leasesFrom_cons, granted_cons]
      simp [ArrayRequest.lease]

/-- What the scripted driver makes for the slots. The arrays get the next numbers in the order
of the slots, and each has the type name of its slot and the elements of its argument. -/
structure Records (args : List Argument) (slots : List ArraySlot) (db : Database)
    (leases : List ArrayLease) (db' : Database) : Prop where
  leases_eq : leases = leasesFrom db.arrays.length (requests args slots)
  database_eq : db' = granted (requests args slots) db
  contents : ∀ slot ∈ slots, ∀ array,
    (Holding.ofLeases leases).arrayFor? slot.argument = some array →
      args[slot.argument]? = some (.value (.array array.data.elements)) ∧
        array.data.typeName = slot.typeName ∧
        db'.arrays[array.id]? = some { data := array.data, byClient := true }

theorem MadeFor.contents {array : ArrayHandle}
    (h : MadeFor Scripted.driver args slot array slots db leases db') :
    args[slot.argument]? = some (.value (.array array.data.elements)) ∧
      array.data.typeName = slot.typeName ∧
      db'.arrays[array.id]? = some { data := array.data, byClient := true } := by
  obtain @⟨_, _, _, _, elements, _, db₁, _, _, ha, _, hc, hafter⟩ := h
  obtain ⟨rfl, rfl⟩ := Scripted.eq_of_createArray_ok hc
  obtain ⟨-, rfl⟩ := granted_of_create hafter
  exact ⟨ha, rfl, by simp [granted, Database.tracked]⟩

/-- When creation succeeds for slots of distinct arguments, an argument finds an array exactly
if it is an array that some slot asks for. This is the array that was made for it, of the type
name of the slot and its own elements. The arrays are made in the order of the slots, one for
each argument that finds one. -/
theorem handles_serve_arguments (args : List Argument) (slots : List ArraySlot)
    (leases : List ArrayLease) (db db' : Database)
    (hn : (slots.map ArraySlot.argument).Nodup) :
    (∀ d : Driver, (create d slots args).on db = (.ok leases, db') →
      Serves d args slots db leases db') ∧
    ((create Scripted.driver slots args).on db = (.ok leases, db') →
      Records args slots db leases db') := by
  refine ⟨fun d h => serves_of_create hn h, fun h => ?_⟩
  obtain ⟨hleases, hdatabase⟩ := granted_of_create h
  refine ⟨hleases, hdatabase, fun slot hs array harray => ?_⟩
  exact ((serves_of_create hn h).served slot hs array harray).contents

/-- The slots are not in the order of the arguments, and two of them are passed over. -/
theorem handles_serve_arguments_passing :
    let args : List Argument := [.value (.array [.scalar (.bool true)]), .value .null,
      .value (.array [.null, .scalar (.text "x")])]
    let slots : List ArraySlot := [⟨1, "B"⟩, ⟨2, "C"⟩, ⟨7, "D"⟩, ⟨0, "A"⟩]
    let db : Database := { arrays := [{ data := Scripted.clientData "T" [], byClient := true }] }
    (slots.map ArraySlot.argument).Nodup ∧
      ∃ leases db', (create Scripted.driver slots args).on db = (.ok leases, db') ∧
        Serves Scripted.driver args slots db leases db' ∧ Records args slots db leases db' ∧
        (Holding.ofLeases leases).length = 2 ∧
        (Holding.ofLeases leases).arrayFor? 0 =
          some ⟨2, Scripted.clientData "A" [.scalar (.bool true)], true⟩ := by
  intro args slots db
  have hn : (slots.map ArraySlot.argument).Nodup := by decide
  obtain ⟨hserves, hrecords⟩ := handles_serve_arguments args slots _ db _ hn
  exact ⟨hn, _, _, rfl, hserves Scripted.driver rfl, hrecords rfl, rfl, rfl⟩

end Recording

end ArrayLease

end ProcCall
