import Mathlib.Data.List.Nodup
import ProcCall.Proofs.Call.Rebinding
import ProcCall.Proofs.Plan.Styles
import ProcCall.Proofs.Transcript

/-! # Arguments that share a slot

Placeholders that go by position have a slot each. By name two parameters share a slot if
they resolve to the same name, and then the argument that is bound last is the one that is
found there.
-/

namespace ProcCall

open Parameter

/-! ## Slots -/

namespace Plan

variable {config : CallerConfig} {m : Method} {defaults : InterfaceMetadata} {out : Option Nat}
  {b : Binder} {i j : Nat} {p q : Parameter}

theorem Chosen.eq_of_slot?_eq (h : Chosen config m out b) (hb : config.binding.byName = false)
    (hp : (i, p) ∈ m.valueParameters) (hq : (j, q) ∈ m.valueParameters)
    (hs : b.slot? i = b.slot? j) : i = j := by
  have hnodup : (m.valueParameters.map fun ip => b.slot? ip.1).Nodup := by
    rw [h.map_slot? hb]
    refine List.Nodup.map ?_ ((pairwise_inputPositions _ _).imp Nat.ne_of_lt)
    intro q r hqr
    cases hqr
    rfl
  exact congrArg Prod.fst (List.inj_on_of_nodup_map hnodup hp hq hs)

theorem slot?_of_names {names : List (Option String)}
    (hn : namesFrom config m 0 m.parameters = .ok names) (hp : (i, p) ∈ m.valueParameters) :
    ∃ s, parameterName config m i p = .ok s ∧ names[i]?.join.map Slot.name = some (.name s) := by
  obtain ⟨hi, hb⟩ := mem_numbered.mp hp
  have hsome := namesFrom_getElem? (j := i) hn
  rw [hi, Option.any_some, hb] at hsome
  obtain ⟨s, hs⟩ := Option.isSome_iff_exists.mp hsome
  obtain ⟨p', hi', _, hname⟩ := parameterName_of_namesFrom hn hs
  obtain rfl := Option.some.inj (hi.symm.trans hi')
  rw [Nat.zero_add] at hname
  exact ⟨s, hname, congrArg _ hs⟩

theorem Chosen.slot?_eq_name (h : Chosen config m out b) (hb : config.binding.byName = true)
    (hp : (i, p) ∈ m.valueParameters) :
    ∃ s, parameterName config m i p = .ok s ∧ b.slot? i = some (.name s) := by
  cases h with
  | noParameters hm => exact absurd hp (hm ▸ List.not_mem_nil)
  | byIndex hi => rw [hi] at hb; cases hb
  | byIndexAndType hi _ => rw [hi] at hb; cases hb
  | byName _ hn => exact slot?_of_names hn hp
  | byNameAndType _ _ hn => exact slot?_of_names hn hp

theorem Built.slot?_eq_iff {o : OutputSlot} {x : Descriptor} (h : Built config m defaults o x)
    (hp : (i, p) ∈ m.valueParameters) (hq : (j, q) ∈ m.valueParameters) (hij : i ≠ j) :
    x.inputs.slot? i = x.inputs.slot? j ↔
      config.binding.byName = true ∧ parameterName config m i p = parameterName config m j q := by
  obtain ⟨b, hb, hx⟩ := h.chosen
  rw [(hx i).1, (hx j).1]
  cases hn : config.binding.byName with
  | false => exact iff_of_false (fun hs => hij (hb.eq_of_slot?_eq hn hp hq hs)) (by simp)
  | true =>
    obtain ⟨s, hs, hi⟩ := hb.slot?_eq_name hn hp
    obtain ⟨t, ht, hj⟩ := hb.slot?_eq_name hn hq
    rw [hs, ht, hi, hj]
    simp

end Plan

/-! ## The last binding of a slot -/

namespace Binder

/-- The jth parameter is the last one at the slot. -/
def LastAt (b : Binder) (slot : Slot) (j : Nat) : Prop :=
  b.slot? j = some slot ∧ ∀ k, j < k → b.slot? k ≠ some slot

variable {b : Binder} {Q : Nat → Slot × Binding → Prop} {ips : List (Nat × Parameter)}
  {entries : List (Slot × Binding)}

/-- What is found at a slot is the entry of the last parameter that has it. -/
theorem lookup_cases
    (h : List.Forall₂ (fun ip e => b.slot? ip.1 = some e.1 ∧ Q ip.1 e) ips entries) (slot : Slot) :
    (entries.reverse.lookup slot = none ∧ ∀ ip ∈ ips, b.slot? ip.1 ≠ some slot) ∨
      ∃ before last after made, entries.reverse.lookup slot = some made ∧
        ips = before ++ last :: after ∧ b.slot? last.1 = some slot ∧ Q last.1 (slot, made) ∧
        ∀ ip ∈ after, b.slot? ip.1 ≠ some slot := by
  induction h with
  | nil => exact .inl ⟨rfl, List.forall_mem_nil _⟩
  | @cons ip e ips entries he _ ih =>
    -- The first entry counts only if none of the later ones is at the slot.
    rw [List.reverse_cons, List.lookup_append]
    obtain ⟨hnone, hips⟩ | ⟨before, last, after, made, hmade, rfl, hlast⟩ := ih
    · rw [hnone, Option.none_or]
      by_cases hslot : slot = e.1
      · subst hslot
        exact .inr ⟨[], ip, ips, e.2, List.lookup_cons_self, rfl, he.1, he.2, hips⟩
      · refine .inl ⟨?_, List.forall_mem_cons.mpr ⟨?_, hips⟩⟩
        · rw [List.lookup_cons, beq_false_of_ne hslot]
          rfl
        · rw [he.1]
          exact fun h => hslot (Option.some.inj h).symm
    · rw [hmade, Option.some_or]
      exact .inr ⟨ip :: before, last, after, made, rfl, rfl, hlast⟩

theorem exists_lastAt
    (h : List.Forall₂ (fun ip e => b.slot? ip.1 = some e.1 ∧ Q ip.1 e) ips entries)
    (horder : (ips.map Prod.fst).Pairwise (· < ·))
    (hbound : ∀ k, (b.slot? k).isSome = true → ∃ p, (k, p) ∈ ips) {i : Nat} {p : Parameter}
    (hp : (i, p) ∈ ips) {slot : Slot} (hs : b.slot? i = some slot) :
    ∃ j made, b.LastAt slot j ∧ i ≤ j ∧ Q j (slot, made) ∧
      entries.reverse.lookup slot = some made := by
  obtain ⟨_, hnone⟩ | ⟨before, last, after, made, hmade, rfl, hlast, hq, hafter⟩ :=
    lookup_cases h slot
  · exact absurd hs (hnone (i, p) hp)
  rw [List.map_append, List.map_cons, List.pairwise_append] at horder
  -- What has the slot and comes later would be among those after the last.
  have hle : ∀ k r, (k, r) ∈ before ++ last :: after → b.slot? k = some slot → k ≤ last.1 := by
    intro k r hk hks
    rcases List.mem_append.mp hk with hk | hk
    · exact Nat.le_of_lt (horder.2.2 k (List.mem_map_of_mem hk) last.1 List.mem_cons_self)
    · rcases List.mem_cons.mp hk with rfl | hk
      · exact Nat.le_refl k
      · exact absurd hks (hafter (k, r) hk)
  refine ⟨last.1, made, ⟨hlast, fun k hk hks => ?_⟩, hle i p hp hs, hq, hmade⟩
  obtain ⟨r, hr⟩ := hbound k (by rw [hks]; rfl)
  exact Nat.not_le_of_lt hk (hle k r hr hks)

/-- Binding the ith argument alone adds this entry to the record. -/
def Makes (b : Binder) (stmt : Statement) (args : List Argument) (leases : List ArrayLease)
    (i : Nat) (e : Slot × Binding) : Prop :=
  ∃ a, args[i]? = some a ∧ ∀ db,
    let array := ArrayLease.arrayFor? (if b.usesArrays then leases else []) i
    (b.bindThrough Scripted.driver stmt array i a).on db =
      (.ok (), db.update stmt.call fun r => { r with bindings := r.bindings ++ [e] })

/-- At the slot of the ith parameter is found what was bound for the jth, the last one there. -/
def Finds (b : Binder) (stmt : Statement) (args : List Argument) (leases : List ArrayLease)
    (r : CallRecord) (i j : Nat) : Prop :=
  ∃ slot made, b.slot? i = some slot ∧ b.LastAt slot j ∧
    b.Makes stmt args leases j (slot, made) ∧ r.binding? slot = some made

end Binder

namespace Plan

variable {config : CallerConfig} {m : Method} {defaults : InterfaceMetadata} {out : OutputSlot}
  {x : Descriptor} {args : List Argument}

theorem Built.makes (h : Built config m defaults out x) (hn : args.length = m.parameters.length)
    (hvalues : ∀ ip ∈ m.valueParameters, ∃ v, args[ip.1]? = some (.value v)) (stmt : Statement)
    (leases : List ArrayLease) :
    (x.inputs.entries args leases).2 = none ∧
      List.Forall₂ (fun ip e => x.inputs.slot? ip.1 = some e.1 ∧
          x.inputs.Makes stmt args leases ip.1 e)
        m.valueParameters (x.inputs.entries args leases).1 := by
  have hnone : (x.inputs.entries args leases).2 = none := by
    refine Option.eq_none_iff_forall_ne_some.mpr fun e he => ?_
    obtain ⟨i, a, ha, hentry, _⟩ := Binder.exists_refused he
    rw [Nat.zero_add] at hentry
    obtain ⟨hslot, _, ⟨f, rfl⟩, _⟩ := (Binder.entry_eq_error (h.slot?_ne_zero i)).mp hentry
    rw [h.slot?_isSome] at hslot
    obtain ⟨p, hp, hb⟩ := (Option.any_eq_true _ _).mp hslot
    obtain ⟨v, hv⟩ := hvalues (i, p) (mem_numbered.mpr ⟨hp, hb⟩)
    cases ha.symm.trans hv
  refine ⟨hnone, ?_⟩
  have hslots : ∀ i p, m.parameters[i]? = some p →
      (x.inputs.slot? (0 + i)).isSome = p.isBound := by
    intro i p hp
    rw [Nat.zero_add, h.slot?_isSome, hp]
    rfl
  refine (x.inputs.forall₂_entriesFrom _ hn hslots hnone).imp fun ip e he => ?_
  obtain ⟨a, ha, hentry⟩ := he
  rw [Nat.zero_add] at hentry
  refine ⟨Binder.slot?_of_entry hentry, a, ha, fun db => ?_⟩
  dsimp only
  rw [Binder.bindThrough_on, hentry]
  rfl

/-- Two parameters share a slot exactly if they are bound by the same name. After values have
been bound, the slot of each parameter has the one that was bound last there: its own, unless
a later parameter is bound by its name. -/
theorem last_bound_found (hx : descriptor config m defaults = .ok x) :
    (∀ i p j q, (i, p) ∈ m.valueParameters → (j, q) ∈ m.valueParameters → i ≠ j →
      (x.inputs.slot? i = x.inputs.slot? j ↔ config.binding.byName = true ∧
        parameterName config m i p = parameterName config m j q)) ∧
    ∀ (stmt : Statement) (leases : List ArrayLease) (db : Database) (r : CallRecord)
      (args : List Argument), args.length = m.parameters.length →
      (∀ ip ∈ m.valueParameters, ∃ v, args[ip.1]? = some (.value v)) →
      db.record? stmt.call = some r → r.bindings = [] →
      let bound := (x.inputs.bind Scripted.driver stmt args leases).on db
      bound.1 = .ok () ∧ ∃ r', bound.2.record? stmt.call = some r' ∧
        ∀ i p, (i, p) ∈ m.valueParameters → ∃ j, x.inputs.Finds stmt args leases r' i j ∧
          ((∀ k q, (k, q) ∈ m.valueParameters → i < k → config.binding.byName = true →
            parameterName config m i p ≠ parameterName config m k q) → j = i) := by
  obtain ⟨out, h⟩ := built_of_descriptor hx
  refine ⟨fun i p j q hp hq hij => h.slot?_eq_iff hp hq hij, ?_⟩
  intro stmt leases db r args hn hvalues hr hfresh bound
  obtain ⟨hnone, hmakes⟩ := h.makes hn hvalues stmt leases
  have hbound : ∀ k, (x.inputs.slot? k).isSome = true → ∃ p, (k, p) ∈ m.valueParameters := by
    intro k hk
    rw [h.slot?_isSome] at hk
    obtain ⟨p, hp, hb⟩ := (Option.any_eq_true _ _).mp hk
    exact ⟨p, mem_numbered.mpr ⟨hp, hb⟩⟩
  simp only [bound, Binder.bind_on, hnone, Database.record?_update, hr, hfresh, Option.map_some,
    List.nil_append]
  refine ⟨rfl, _, rfl, fun i p hp => ?_⟩
  obtain ⟨slot, hs⟩ := Option.isSome_iff_exists.mp ((h.slot?_isSome i).trans
    ((Option.any_eq_true _ _).mpr ⟨p, mem_numbered.mp hp⟩))
  obtain ⟨j, made, hlast, hle, hmade, hfound⟩ :=
    Binder.exists_lastAt hmakes (pairwise_numbered m.parameters) hbound hp hs
  refine ⟨j, ⟨slot, made, hs, hlast, hmade, hfound⟩, fun hdistinct => ?_⟩
  by_contra hne
  obtain ⟨q, hq⟩ := hbound j (by rw [hlast.1]; rfl)
  obtain ⟨hbyName, hname⟩ := (h.slot?_eq_iff hp hq (Ne.symm hne)).mp (hs.trans hlast.1.symm)
  exact hdistinct j q hq (Nat.lt_of_le_of_ne hle (Ne.symm hne)) hbyName hname

def snakeNames : CallerConfig where
  binding := .nameOnly
  parameterNaming := { case := .snake }

def picking : Method where
  name := "pick"
  parameters := [.named "userId" (.scalar .text), .named "user_id" (.scalar .text)]

def pickingCall : Descriptor where
  method := "pick"
  procedureName := "pick"
  callString := "\x7bcall pick(?,?)\x7d"
  parameterCount := 2
  wrapsFailures := true
  inputs := .byName [some "user_id", some "user_id"]
  output := .none
  extractor := .void .acceptAndIgnore
  arraySlots := []

def pickingArguments : List Argument := [.value (.scalar (.text "a")), .value (.scalar (.text "b"))]

theorem last_bound_found_picking :
    let db : Database := { calls := [{ call := pickingCall.callString }] }
    let bound := (pickingCall.inputs.bind Scripted.driver ⟨0, {}⟩ pickingArguments []).on db
    descriptor snakeNames picking {} = .ok pickingCall ∧
      (∀ ip ∈ picking.valueParameters, ∃ v, pickingArguments[ip.1]? = some (.value v)) ∧
      bound.1 = .ok () ∧ ∃ r', bound.2.record? 0 = some r' ∧
        ∀ i p, (i, p) ∈ picking.valueParameters → ∃ j,
          pickingCall.inputs.Finds ⟨0, {}⟩ pickingArguments [] r' i j ∧
          ((∀ k q, (k, q) ∈ picking.valueParameters → i < k → snakeNames.binding.byName = true →
            parameterName snakeNames picking i p ≠ parameterName snakeNames picking k q) →
            j = i) := by
  have hvalues : ∀ ip ∈ picking.valueParameters, ∃ v,
      pickingArguments[ip.1]? = some (.value v) :=
    List.forall_mem_cons.mpr ⟨⟨_, rfl⟩, List.forall_mem_singleton.mpr ⟨_, rfl⟩⟩
  have hx : descriptor snakeNames picking {} = .ok pickingCall := rfl
  exact ⟨hx, hvalues, (last_bound_found hx).2 ⟨0, {}⟩ [] _ _ _ rfl hvalues rfl rfl⟩

/-- What was bound for the first argument is not found at its slot. -/
theorem first_argument_hidden :
    let db : Database := { calls := [{ call := pickingCall.callString }] }
    let bound := (pickingCall.inputs.bind Scripted.driver ⟨0, {}⟩ pickingArguments []).on db
    descriptor snakeNames picking {} = .ok pickingCall ∧
      pickingCall.inputs.slot? 0 = some (.name "user_id") ∧
      pickingCall.inputs.slot? 1 = some (.name "user_id") ∧
      pickingCall.inputs.Makes ⟨0, {}⟩ pickingArguments [] 0
        (.name "user_id", .value (.scalar (.text "a"))) ∧
      (bound.2.record? 0).bind (·.binding? (.name "user_id")) =
        some (.value (.scalar (.text "b"))) :=
  ⟨rfl, rfl, rfl, ⟨_, rfl, fun _ => rfl⟩, rfl⟩

end Plan

end ProcCall
