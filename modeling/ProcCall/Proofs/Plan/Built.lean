import ProcCall.Proofs.Call.Positions
import ProcCall.Proofs.Plan.Parameters

/-! # What was planned

A descriptor that could be planned comes from a declaration that passed all checks, and
each of its parts is what the step for that part gave.
-/

namespace ProcCall.Plan

open Parameter

variable {config : CallerConfig} {m : Method} {defaults : InterfaceMetadata}
  {out : OutputSlot} {x : Descriptor}

/-! ## The binder -/

/-- The binders that a plan chooses from. -/
inductive Chosen (config : CallerConfig) (m : Method) (out : Option Nat) : Binder → Prop
  | noParameters (h : m.valueParameters = []) : Chosen config m out .noParameters
  | byIndex (h : config.binding = .indexOnly) :
      Chosen config m out (.byIndex (parameterPositions m out))
  | byIndexAndType {types : List SqlType} (h : config.binding = .indexAndType)
      (ht : parameterTypes config m = .ok types) :
      Chosen config m out (.byIndexAndType (parameterPositions m out) types)
  | byName {names : List (Option String)} (h : config.binding = .nameOnly)
      (hn : namesFrom config m 0 m.parameters = .ok names) : Chosen config m out (.byName names)
  | byNameAndType {names : List (Option String)} {types : List SqlType}
      (h : config.binding = .nameAndType) (ht : parameterTypes config m = .ok types)
      (hn : namesFrom config m 0 m.parameters = .ok names) :
      Chosen config m out (.byNameAndType names types)

theorem eq_of_usablePosition {q r : Nat} (h : usablePosition m q = .ok r) : r = q := by
  unfold usablePosition at h
  split at h
  · cases h
  · exact (Except.ok.inj h).symm

theorem eq_of_usablePositions {out : Option Nat} {positions : List (Option Nat)}
    (h : usablePositions m out = .ok positions) : positions = parameterPositions m out := by
  refine eq_of_mapM (fun position p hp => ?_) h
  cases position with
  | none => exact (Except.ok.inj hp).symm
  | some q =>
    obtain ⟨r, hr, rfl⟩ := map_eq_ok.mp hp
    rw [eq_of_usablePosition hr]

theorem chosen_of_binder {out : Option Nat} {b : Binder} (h : binder config m out = .ok b) :
    Chosen config m out b := by
  unfold binder at h
  split at h
  · rename_i ha
    obtain rfl := Except.ok.inj h
    exact .noParameters (List.length_eq_zero_iff.mp ha)
  · split at h <;> rename_i hb
    · obtain ⟨positions, hp, rfl⟩ := map_eq_ok.mp h
      rw [eq_of_usablePositions hp]
      exact .byIndex hb
    · obtain ⟨types, ht, h⟩ := bind_eq_ok.mp h
      obtain ⟨positions, hp, h⟩ := bind_eq_ok.mp h
      obtain rfl := Except.ok.inj h
      rw [eq_of_usablePositions hp]
      exact .byIndexAndType hb ht
    · obtain ⟨names, hn, h⟩ := bind_eq_ok.mp h
      obtain rfl := Except.ok.inj h
      exact .byName hb hn
    · obtain ⟨types, ht, h⟩ := bind_eq_ok.mp h
      obtain ⟨names, hn, h⟩ := bind_eq_ok.mp h
      obtain rfl := Except.ok.inj h
      exact .byNameAndType hb ht hn

theorem map_parameterPositions (m : Method) (out : Option Nat) :
    m.valueParameters.map (fun ip => (parameterPositions m out)[ip.1]?.join) =
      (inputPositions (arity m) out).map some :=
  map_place (length_inputPositions (arity m) out)

theorem parameterPositions_getElem? (m : Method) (out : Option Nat) (i : Nat) :
    (parameterPositions m out)[i]?.join.isSome = m.parameters[i]?.any Parameter.isBound := by
  by_cases h : m.parameters[i]?.any Parameter.isBound = true
  · obtain ⟨p, hp, hb⟩ := (Option.any_eq_true _ _).mp h
    have hm := List.mem_map_of_mem (f := fun ip => (parameterPositions m out)[ip.1]?.join)
      (mem_numbered.mpr ⟨hp, hb⟩)
    rw [h]
    obtain ⟨q, _, hq⟩ := List.mem_map.mp (map_parameterPositions m out ▸ hm)
    exact congrArg Option.isSome hq.symm
  · rw [Bool.eq_false_iff.mpr h, parameterPositions, place_unbound]
    · rfl
    · intro p hp
      rw [hp] at h
      exact Bool.eq_false_iff.mpr h

theorem Chosen.slot?_isSome {out : Option Nat} {b : Binder} (h : Chosen config m out b) (i : Nat) :
    (b.slot? i).isSome = m.parameters[i]?.any Parameter.isBound := by
  cases h with
  | noParameters hm =>
    refine (Bool.eq_false_iff.mpr fun h => ?_).symm
    obtain ⟨p, hp, hb⟩ := (Option.any_eq_true _ _).mp h
    exact List.not_mem_nil (hm ▸ mem_numbered.mpr ⟨hp, hb⟩ : (i, p) ∈ [])
  | byIndex _ => rw [Binder.slot?, Option.isSome_map, parameterPositions_getElem?]
  | byIndexAndType _ _ => rw [Binder.slot?, Option.isSome_map, parameterPositions_getElem?]
  | byName _ hn => rw [Binder.slot?, Option.isSome_map, namesFrom_getElem? hn]
  | byNameAndType _ _ hn => rw [Binder.slot?, Option.isSome_map, namesFrom_getElem? hn]

theorem Chosen.sqlType? {out : Option Nat} {b : Binder} (h : Chosen config m out b) {i : Nat}
    {p : Parameter} (hp : (i, p) ∈ m.valueParameters) :
    if config.binding.typed then ∃ t, parameterType config p = .ok t ∧ b.sqlType? i = some t
    else b.sqlType? i = none := by
  cases h with
  | noParameters hm => exact absurd hp (hm ▸ List.not_mem_nil)
  | byIndex hb => rw [hb]; rfl
  | byIndexAndType hb ht => rw [hb]; exact mapM_getElem? ht (mem_numbered.mp hp).1
  | byName hb _ => rw [hb]; rfl
  | byNameAndType hb ht _ => rw [hb]; exact mapM_getElem? ht (mem_numbered.mp hp).1

/-! ## The descriptor -/

/-- The parts of a descriptor that was planned with this output slot. -/
structure Built (config : CallerConfig) (m : Method) (defaults : InterfaceMetadata)
    (out : OutputSlot) (x : Descriptor) : Prop where
  outputSlot : Plan.outputSlot m = .ok out
  positions : out.positions (arity m) ≤ maxPosition
  inputs : ∃ b, Chosen config m out.position? b ∧
    x.inputs = if x.arraySlots.isEmpty then b else .resourceBacked b
  output : Plan.output config m out = .ok x.output
  extractor : Plan.extractor config m defaults = .ok x.extractor
  arraySlots : Plan.arraySlots config m = .ok x.arraySlots
  method : x.method = m.name
  parameterCount : x.parameterCount = m.parameters.length
  wrapsFailures : x.wrapsFailures = !m.rawBackendErrors
  procedureName : x.procedureName =
    m.metadata.procedureName.getD (config.procedureNaming.apply m.name)
  callString : x.callString =
    ProcCall.callString (m.metadata.package.or (defaults.package.or config.package))
      (m.metadata.schema.or (defaults.schema.or config.schema)) x.procedureName
      (out.placeholders (arity m)) out.isFunction

theorem positions_of_checkPositions (h : checkPositions m out = .ok ()) :
    out.positions (arity m) ≤ maxPosition := by
  unfold checkPositions at h
  split at h
  · cases h
  · rename_i hp
    exact Nat.le_of_not_lt hp

theorem built_of_descriptor (h : descriptor config m defaults = .ok x) :
    ∃ out, Built config m defaults out x := by
  obtain ⟨out, hslot, h⟩ := bind_eq_ok.mp h
  obtain ⟨_, _, h⟩ := bind_eq_ok.mp h
  obtain ⟨_, hpositions, h⟩ := bind_eq_ok.mp h
  obtain ⟨b, hb, h⟩ := bind_eq_ok.mp h
  obtain ⟨output, houtput, h⟩ := bind_eq_ok.mp h
  obtain ⟨extractor, hextractor, h⟩ := bind_eq_ok.mp h
  obtain ⟨arraySlots, harrays, h⟩ := bind_eq_ok.mp h
  obtain rfl := Except.ok.inj h
  exact ⟨out, {
    outputSlot := hslot
    positions := positions_of_checkPositions hpositions
    inputs := ⟨b, chosen_of_binder hb, rfl⟩
    output := houtput
    extractor := hextractor
    arraySlots := harrays
    method := rfl
    parameterCount := rfl
    wrapsFailures := rfl
    procedureName := rfl
    callString := rfl }⟩

theorem Built.chosen (h : Built config m defaults out x) :
    ∃ b, Chosen config m out.position? b ∧
      ∀ i, x.inputs.slot? i = b.slot? i ∧ x.inputs.sqlType? i = b.sqlType? i := by
  obtain ⟨b, hb, hx⟩ := h.inputs
  refine ⟨b, hb, fun i => ?_⟩
  rw [hx]
  split
  · exact ⟨rfl, rfl⟩
  · exact ⟨rfl, rfl⟩

theorem Built.slot?_isSome (h : Built config m defaults out x) (i : Nat) :
    (x.inputs.slot? i).isSome = m.parameters[i]?.any Parameter.isBound := by
  obtain ⟨b, hb, hx⟩ := h.chosen
  rw [(hx i).1, hb.slot?_isSome]

theorem Built.sqlType? (h : Built config m defaults out x) {i : Nat} {p : Parameter}
    (hp : (i, p) ∈ m.valueParameters) :
    if config.binding.typed then
      ∃ t, parameterType config p = .ok t ∧ x.inputs.sqlType? i = some t
    else x.inputs.sqlType? i = none := by
  obtain ⟨b, hb, hx⟩ := h.chosen
  rw [(hx i).2]
  exact hb.sqlType? hp

end ProcCall.Plan
