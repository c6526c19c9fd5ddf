import Mathlib.Data.List.Forall2
import ProcCall.Proofs.Plan.Layout
import ProcCall.Proofs.Planned

/-! # What reaches the database

The record of a call that was executed says what was passed: an entry for each bound
parameter in the order of declaration, the declared output and the fetch size of a list.
-/

namespace ProcCall

open Parameter

/-! ## The entries of the parameters -/

namespace Binder

variable (b : Binder)

theorem isSome_entry {array : Option ArrayHandle} {i : Nat} {a : Argument}
    {e : Option (Slot × Binding)} (h : b.entry array i a = .ok e) :
    e.isSome = (b.slot? i).isSome := by
  unfold entry at h
  split at h
  · obtain rfl := Except.ok.inj h
    rename_i hs
    rw [hs]
    rfl
  · rename_i slot hs
    rw [hs]
    split at h
    · obtain ⟨_, _, rfl⟩ := map_eq_ok.mp h
      rfl
    · obtain ⟨_, _, rfl⟩ := map_eq_ok.mp h
      rfl
    · cases h

theorem forall₂_entriesFrom (leases : List ArrayLease) {ps : List Parameter}
    {args : List Argument} {i : Nat} (hn : args.length = ps.length)
    (hs : ∀ j p, ps[j]? = some p → (b.slot? (i + j)).isSome = p.isBound)
    (h : (b.entriesFrom leases i args).2 = none) :
    List.Forall₂ (fun ip e => ∃ a, args[ip.1]? = some a ∧
        b.entry (ArrayLease.arrayFor? leases (i + ip.1)) (i + ip.1) a = .ok (some e))
      (numbered ps) (b.entriesFrom leases i args).1 := by
  induction ps generalizing i args with
  | nil =>
    obtain rfl := List.length_eq_zero_iff.mp hn
    exact .nil
  | cons p ps ih =>
    obtain ⟨a, rest, rfl⟩ := List.exists_cons_of_length_eq_add_one hn
    rw [entriesFrom] at h ⊢
    rcases he : b.entry (ArrayLease.arrayFor? leases i) i a with _ | e <;> rw [he] at h
    · cases h
    have hb : e.isSome = p.isBound := (b.isSome_entry he).trans (hs 0 p rfl)
    have hslots : ∀ j q, ps[j]? = some q → (b.slot? (i + 1 + j)).isSome = q.isBound := by
      intro j q hq
      rw [Nat.add_right_comm]
      exact hs (j + 1) q hq
    have hrest := ih (Nat.succ.inj hn) hslots h
    have hshift : List.Forall₂ (fun ip e => ∃ c, (a :: rest)[ip.1]? = some c ∧
          b.entry (ArrayLease.arrayFor? leases (i + ip.1)) (i + ip.1) c = .ok (some e))
        ((numbered ps).map (Prod.map (· + 1) id)) (b.entriesFrom leases (i + 1) rest).1 := by
      refine List.forall₂_map_left_iff.mpr (hrest.imp fun ip e h => ?_)
      rw [Nat.add_right_comm] at h
      exact h
    cases e with
    | none =>
      rw [numbered_cons_unbound hb.symm]
      exact hshift
    | some e =>
      rw [numbered_cons_bound hb.symm]
      exact .cons ⟨a, rfl, he⟩ hshift

end Binder

/-! ## What is recorded -/

/-- What is recorded for a value of a parameter. -/
inductive Recorded (config : CallerConfig) (slots : List ArraySlot) (i : Nat) (p : Parameter) :
    Value → Binding → Prop
  | array {elements : List Value} {typeName : String} (harray : p.type.isArray = true)
      (hslot : ⟨i, typeName⟩ ∈ slots) :
      Recorded config slots i p (.array elements) (.array typeName)
  | null {t : SqlType} (htyped : config.binding.typed = true)
      (ht : Plan.parameterType config p = .ok t) : Recorded config slots i p .null (.null t)
  | typed {v : Value} {t : SqlType} (hv : v ≠ .null)
      (hplain : p.type.isArray = true → ∀ elements, v ≠ .array elements)
      (htyped : config.binding.typed = true) (ht : Plan.parameterType config p = .ok t) :
      Recorded config slots i p v (.typed v t)
  | untyped {v : Value} (hplain : p.type.isArray = true → ∀ elements, v ≠ .array elements)
      (huntyped : config.binding.typed = false) : Recorded config slots i p v (.value v)

inductive OutputTarget (config : CallerConfig) (m : Method) : Option (Slot × SqlType) → Prop
  | none (hout : m.metadata.outParameter = none) (hret : m.metadata.returnValue = none) :
      OutputTarget config m none
  | outParameter {spec : OutParameter} {t : SqlType} (hout : m.metadata.outParameter = some spec)
      (ht : Plan.outputType config m spec.sqlType = .ok t) :
      OutputTarget config m (some ((spec.name.map Slot.name).getD
        (.index ((spec.index.map UInt64.toNat).getD (Plan.arity m + 1))), t))
  | returnValue {spec : ReturnValue} {t : SqlType} (hret : m.metadata.returnValue = some spec)
      (ht : Plan.outputType config m spec.sqlType = .ok t) :
      OutputTarget config m (some ((spec.name.map Slot.name).getD (.index 1), t))

/-- The hint that applies to a list, from the method, the interface or the caller. -/
def fetchHint (config : CallerConfig) (m : Method) (defaults : InterfaceMetadata) :
    Option UInt32 :=
  match m.returns with
  | .list _ => m.metadata.fetchSize.or (defaults.fetchSize.or config.fetchSize)
  | _ => none

/-- The record says what was passed to a method with this descriptor. -/
structure Transcript (config : CallerConfig) (m : Method) (defaults : InterfaceMetadata)
    (x : Descriptor) (args : List Argument) (r : CallRecord) : Prop where
  call : r.call = x.callString
  bindings : List.Forall₂ (fun ip e => x.inputs.slot? ip.1 = some e.1 ∧
      ∃ v, args[ip.1]? = some (.value v) ∧ Recorded config x.arraySlots ip.1 ip.2 v e.2)
    m.valueParameters r.bindings
  registered : r.registered = x.output.target?.toList
  target : OutputTarget config m x.output.target?
  fetchSize : r.fetchSize = fetchHint config m defaults

namespace Plan

variable {config : CallerConfig} {m : Method} {defaults : InterfaceMetadata}
  {out : OutputSlot} {x : Descriptor}

theorem target?_of_registrar {name : Option String} {i : Nat} {t : SqlType} {r : Registrar}
    (h : registrar m name i t = .ok r) :
    r.target? = some ((name.map Slot.name).getD (.index i), t) := by
  rcases registrar_cases h with ⟨s, rfl, rfl⟩ | ⟨rfl, rfl⟩
  · rfl
  · rfl

theorem Built.outputTarget (h : Built config m defaults out x) :
    OutputTarget config m x.output.target? := by
  have ho := h.output
  rcases outputSlot_cases h.outputSlot with ⟨hout, hret, rfl⟩ | ⟨spec, hout, hret, rfl⟩ |
    ⟨spec, i, hout, hret, rfl, rfl, _⟩
  · rw [← Except.ok.inj ho]
    exact .none hout hret
  · obtain ⟨t, ht, hr⟩ := bind_eq_ok.mp ho
    rw [target?_of_registrar hr]
    exact .returnValue hret ht
  · rw [Plan.output] at ho
    split at ho
    · cases ho
    · obtain ⟨t, ht, hr⟩ := bind_eq_ok.mp ho
      rw [target?_of_registrar hr]
      exact .outParameter hout ht

theorem Built.fetchSize? (h : Built config m defaults out x) :
    x.extractor.fetchSize? = fetchHint config m defaults := by
  have hx := h.extractor
  unfold Plan.extractor at hx
  unfold fetchHint
  rcases hm : m.returns with _ | kind | element | element <;> rw [hm] at hx
  · rw [← Except.ok.inj hx]
    rfl
  · rw [← Except.ok.inj hx]
    rfl
  · dsimp only at hx ⊢
    split at hx
    · rw [← Except.ok.inj hx]
      rfl
    · rw [← Except.ok.inj hx]
      rfl
    · cases hx
  · rw [← Except.ok.inj hx]
    rfl

theorem entryAt_eq_ok {slot : Slot} {b : Binding} {e : Slot × Binding}
    (h : (Binder.entryAt slot b).map some = .ok (some e)) : e = (slot, b) := by
  unfold Binder.entryAt at h
  split at h
  · cases h
  · exact (Option.some.inj (Except.ok.inj h)).symm

theorem Built.recorded_ofValue (h : Built config m defaults out x) {i : Nat} {p : Parameter}
    (hp : (i, p) ∈ m.valueParameters) {v : Value}
    (hplain : p.type.isArray = true → ∀ elements, v ≠ .array elements) :
    Recorded config x.arraySlots i p v (.ofValue (x.inputs.sqlType? i) v) := by
  have ht := h.sqlType? hp
  by_cases hb : config.binding.typed = true
  · rw [if_pos hb] at ht
    obtain ⟨t, ht, hx⟩ := ht
    rw [hx, Binding.ofValue]
    split
    · rename_i hv
      rw [hv]
      exact .null hb ht
    · rename_i hv
      exact .typed hv hplain hb ht
  · rw [if_neg hb] at ht
    rw [ht]
    exact .untyped hplain (Bool.eq_false_iff.mpr hb)

theorem Built.recorded_entry (h : Built config m defaults out x) {args : List Argument}
    {leases : List ArrayLease} {db db' : Database}
    (hmaking : ArrayLease.Making Scripted.driver args x.arraySlots db leases none db')
    {i : Nat} {p : Parameter} (hp : (i, p) ∈ m.valueParameters) {a : Argument}
    (ha : args[i]? = some a) {e : Slot × Binding}
    (he : x.inputs.entry (ArrayLease.arrayFor? leases i) i a = .ok (some e)) :
    x.inputs.slot? i = some e.1 ∧
      ∃ v, args[i]? = some (.value v) ∧ Recorded config x.arraySlots i p v e.2 := by
  unfold Binder.entry at he
  rcases hs : x.inputs.slot? i with _ | slot <;> rw [hs] at he
  · cases he
  rcases hl : ArrayLease.arrayFor? leases i with _ | array <;> rw [hl] at he
  · rcases a with v | _
    · obtain rfl := entryAt_eq_ok he
      refine ⟨rfl, v, ha, h.recorded_ofValue hp ?_⟩
      rintro harray elements rfl
      -- An array argument in an array slot would have got an array.
      obtain ⟨s, hm, rfl⟩ := List.mem_map.mp
        ((mem_arguments_arraySlots h.arraySlots hp).mpr harray)
      obtain ⟨l, hm, hi⟩ := hmaking.exists_lease rfl hm ha
      exact ArrayLease.argument_ne_of_arrayFor? hl l hm hi
    · cases he
  · obtain rfl := entryAt_eq_ok he
    obtain ⟨l, hm, rfl, rfl⟩ := ArrayLease.mem_of_arrayFor? hl
    obtain ⟨s, hs, elements, hv, hi, hd⟩ := hmaking.slot_of_mem hm
    rw [← hi] at hv
    refine ⟨rfl, _, hv, ?_⟩
    dsimp only
    rw [hd]
    refine .array ?_ ?_
    · refine (mem_arguments_arraySlots h.arraySlots hp).mp ?_
      exact List.mem_map.mpr ⟨s, hs, hi.symm⟩
    · rw [hi]
      exact hs

theorem Built.entries (h : Built config m defaults out x) {args : List Argument}
    {leases : List ArrayLease} {db db' : Database}
    (hmaking : ArrayLease.Making Scripted.driver args x.arraySlots db leases none db') :
    x.inputs.entries args leases = x.inputs.entriesFrom leases 0 args := by
  obtain ⟨b, hb, hx⟩ := h.inputs
  rw [Binder.entries]
  rcases hs : x.arraySlots with _ | ⟨s, rest⟩ <;> rw [hs] at hx hmaking
  · cases hmaking
    split
    · rfl
    · rfl
  · rw [hx]
    rfl

theorem getElem?_of_take {α : Type} {l : List α} {n i : Nat} {a : α}
    (h : (l.take n)[i]? = some a) : l[i]? = some a := by
  rw [List.getElem?_take] at h
  exact (Option.ite_none_right_eq_some.mp h).2

theorem Built.recorded_take (h : Built config m defaults out x) {args : List Argument}
    (hn : args.length = m.parameters.length) {leases : List ArrayLease} {db db' : Database}
    (hmaking : ArrayLease.Making Scripted.driver args x.arraySlots db leases none db') {n : Nat}
    (hrefused : (x.inputs.entriesFrom leases 0 (args.take n)).2 = none) :
    List.Forall₂ (fun ip e => x.inputs.slot? ip.1 = some e.1 ∧
        ∃ v, args[ip.1]? = some (.value v) ∧ Recorded config x.arraySlots ip.1 ip.2 v e.2)
      (numbered (m.parameters.take n)) (x.inputs.entriesFrom leases 0 (args.take n)).1 := by
  have hslot : ∀ j p, (m.parameters.take n)[j]? = some p →
      (x.inputs.slot? (0 + j)).isSome = p.isBound := by
    intro j p hp
    rw [Nat.zero_add, h.slot?_isSome, getElem?_of_take hp]
    rfl
  have hlength : (args.take n).length = (m.parameters.take n).length := by
    rw [List.length_take, List.length_take, hn]
  have hentries := x.inputs.forall₂_entriesFrom leases hlength hslot hrefused
  have hmem := (List.forall₂_and_left (p := (· ∈ numbered (m.parameters.take n))) _ _).mpr
    ⟨fun _ hip => hip, hentries⟩
  refine hmem.imp fun ip e he => ?_
  obtain ⟨hip, a, ha, he⟩ := he
  obtain ⟨hp, hb⟩ := mem_numbered.mp hip
  rw [Nat.zero_add] at he
  exact h.recorded_entry hmaking (mem_numbered.mpr ⟨getElem?_of_take hp, hb⟩)
    (getElem?_of_take ha) he

theorem Built.transcript (h : Built config m defaults out x) {args : List Argument}
    (hn : args.length = m.parameters.length) {leases : List ArrayLease} {db db' : Database}
    (hmaking : ArrayLease.Making Scripted.driver args x.arraySlots db leases none db')
    {s : Script} (he : (x.record args leases s).executed = true) :
    Transcript config m defaults x args (x.record args leases s) := by
  unfold Descriptor.record Descriptor.openRecord at he ⊢
  rcases hrefused : (x.inputs.entries args leases).2 with _ | e <;> rw [hrefused] at he
  · rw [h.entries hmaking] at hrefused ⊢
    rw [← args.take_length] at hrefused
    have hentries := h.recorded_take hn hmaking hrefused
    rw [List.take_length, hn, List.take_length] at hentries
    constructor
    · rfl
    · exact hentries
    · rfl
    · exact h.outputTarget
    · exact (Option.or_none).trans h.fetchSize?
  · cases he

end Plan

namespace Caller

/-- What an executed call has recorded is what was passed, after any session. -/
theorem executed_call_transcript (interface : Interface) (config : CallerConfig)
    (requests : List Request) (before db : Database) {method : String} {m : Method}
    {x : Descriptor} {args : List Argument} {r : CallRecord}
    (hm : interface.find? method = some m)
    (hx : Plan.descriptor config m interface.metadata = .ok x) :
    let c := (before.run (serveAll Scripted.driver { interface, config } requests)).1
    (db.run (c.invoke Scripted.driver method args)).2.calls = db.calls ++ [r] →
      r.executed = true → Transcript config m interface.metadata x args r := by
  intro c hcalls he
  obtain ⟨out, hbuilt⟩ := Plan.built_of_descriptor hx
  have hfound : (c.descriptor method).1 = .ok x := by
    rw [(faithful_session Scripted.driver requests before).descriptor_of_find? hm, hx]
  rw [Caller.run_invoke, hfound, (settles_call method args db (.ok x)).calls] at hcalls
  have hr : r ∈ callRecord? args db (.ok x) := by
    refine Option.mem_toList.mp ?_
    rw [List.append_cancel_left hcalls]
    exact List.mem_singleton_self r
  rw [callRecord?] at hr
  split at hr
  · rename_i hn
    obtain ⟨leases, _, hmaking, rfl⟩ := x.eq_record_of_mem args hr
    exact hbuilt.transcript (hn.trans hbuilt.parameterCount) hmaking he
  · cases hr

def typing : CallerConfig := { binding := .indexAndType, fetchSize := some 50 }

def typedCall : Descriptor := { Plan.middleOutputCall with
  inputs := .resourceBacked (.byIndexAndType [some 1, none, some 3] [.varchar, .null, .array])
  extractor := .mappedList 1 (some 50) }

def typedArguments : List Argument :=
  [.value .null, .mapper (.plain fun row => .ok row.first), .value (.array [])]

def typedRecord : CallRecord where
  call := typedCall.callString
  bindings := [(.index 1, .null .varchar), (.index 3, .array "VARCHAR")]
  registered := [(.index 2, .refCursor)]
  fetchSize := some 50
  executed := true
  closed := true

theorem executed_call_transcript_typed :
    let c := (Database.run {} (serveAll Scripted.driver
      { interface := { name := "rows", methods := [Plan.middleOutput] }, config := typing } [])).1
    (Database.run {} (c.invoke Scripted.driver "find" typedArguments)).2.calls =
        [] ++ [typedRecord] ∧
      Transcript typing Plan.middleOutput {} typedCall typedArguments typedRecord :=
  ⟨rfl, executed_call_transcript { name := "rows", methods := [Plan.middleOutput] } typing [] {} {}
    (rfl : Interface.find? _ "find" = some Plan.middleOutput) rfl rfl rfl⟩

end Caller

end ProcCall
