import ProcCall.Proofs.Plan.Built

/-! # The layout of a call

When placeholders are addressed by position, the inputs and the output of a method fill
them all, each once and the inputs in order, and the call string has as many.
-/

namespace ProcCall

namespace Method

/-- The position of the output that a method declares. Functions have it first. -/
def outputPosition? (m : Method) : Option Nat :=
  match m.metadata.outParameter, m.metadata.returnValue with
  | some spec, _ => some ((spec.index.map UInt64.toNat).getD (Plan.arity m + 1))
  | none, some _ => some 1
  | none, none => none

/-- One for each parameter that is bound and one for the output, if one is declared. -/
def placeholderCount (m : Method) : Nat :=
  if m.metadata.outParameter.isSome || m.metadata.returnValue.isSome then Plan.arity m + 1
  else Plan.arity m

end Method

namespace Plan

variable {config : CallerConfig} {m : Method} {defaults : InterfaceMetadata} {x : Descriptor}

/-! ## The output -/

/-- An output slot is the declared one, and its position is among those of the call. -/
structure Declared (m : Method) (out : OutputSlot) : Prop where
  position : out.position? = m.outputPosition?
  inside : ∀ o ∈ out.position?, 0 < o ∧ o ≤ arity m + 1
  count : out.positions (arity m) = m.placeholderCount
  total : m.placeholderCount = arity m + out.position?.toList.length
  isFunction : out.isFunction = m.metadata.returnValue.isSome
  placeholders : out.placeholders (arity m) =
    if m.metadata.returnValue.isSome then m.placeholderCount - 1 else m.placeholderCount

theorem outputSlot_cases {out : OutputSlot} (h : outputSlot m = .ok out) :
    (m.metadata.outParameter = none ∧ m.metadata.returnValue = none ∧ out = .none) ∨
    (∃ spec, m.metadata.outParameter = none ∧ m.metadata.returnValue = some spec ∧
      out = .returnValue spec) ∨
    ∃ spec i, m.metadata.outParameter = some spec ∧ m.metadata.returnValue = none ∧
      out = .outParameter spec i ∧ i = (spec.index.map UInt64.toNat).getD (arity m + 1) ∧
      0 < i ∧ i ≤ arity m + 1 := by
  unfold outputSlot at h
  rcases ho : m.metadata.outParameter with _ | spec <;>
    rcases hr : m.metadata.returnValue with _ | result <;> rw [ho, hr] at h
  · exact .inl ⟨rfl, rfl, (Except.ok.inj h).symm⟩
  · exact .inr (.inl ⟨result, rfl, rfl, (Except.ok.inj h).symm⟩)
  · dsimp only at h
    split at h
    · cases h
    · rename_i hi
      exact .inr (.inr ⟨spec, _, rfl, rfl, (Except.ok.inj h).symm, rfl, by omega, by omega⟩)
  · cases h

theorem declared_of_outputSlot {out : OutputSlot} (h : outputSlot m = .ok out) :
    Declared m out := by
  rcases outputSlot_cases h with ⟨ho, hr, rfl⟩ | ⟨spec, ho, hr, rfl⟩ |
    ⟨spec, i, ho, hr, rfl, hi, hin⟩
  all_goals
    constructor <;> simp [OutputSlot.position?, OutputSlot.positions, OutputSlot.isFunction,
      OutputSlot.placeholders, Method.outputPosition?, Method.placeholderCount, ho, hr]
  · exact hi
  · exact hin

/-- A registrar is there exactly if an output is declared, and has its position unless it
goes by name. -/
def Registered (position : Option Nat) : Registrar → Prop
  | .none => position = none
  | .byIndex i _ => position = some i
  | .byName _ _ => position.isSome = true

theorem registrar_cases {name : Option String} {i : Nat} {t : SqlType} {r : Registrar}
    (h : registrar m name i t = .ok r) :
    (∃ s, name = some s ∧ r = .byName s t) ∨ (name = none ∧ r = .byIndex i t) := by
  cases name with
  | some s => exact .inl ⟨s, rfl, (Except.ok.inj h).symm⟩
  | none =>
    obtain ⟨j, hj, rfl⟩ := map_eq_ok.mp h
    rw [eq_of_usablePosition hj]
    exact .inr ⟨rfl, rfl⟩

theorem registered_of_registrar {name : Option String} {i : Nat} {t : SqlType} {r : Registrar}
    (h : registrar m name i t = .ok r) : Registered (some i) r := by
  rcases registrar_cases h with ⟨s, _, rfl⟩ | ⟨_, rfl⟩
  · rfl
  · rfl

theorem registered_of_output {out : OutputSlot} {r : Registrar} (h : output config m out = .ok r) :
    Registered out.position? r := by
  unfold output at h
  split at h
  · obtain rfl := Except.ok.inj h
    rfl
  · obtain ⟨t, _, h⟩ := bind_eq_ok.mp h
    exact registered_of_registrar h
  · split at h
    · cases h
    · obtain ⟨t, _, h⟩ := bind_eq_ok.mp h
      exact registered_of_registrar h

/-! ## The inputs -/

theorem Chosen.map_slot? {out : Option Nat} {b : Binder} (h : Chosen config m out b)
    (hn : config.binding.byName = false) :
    m.valueParameters.map (fun ip => b.slot? ip.1) =
      (inputPositions (arity m) out).map fun p => some (Slot.index p) := by
  have hp : m.valueParameters.map
        (fun ip => (parameterPositions m out)[ip.1]?.join.map Slot.index) =
      (inputPositions (arity m) out).map fun p => some (Slot.index p) := by
    have hm := congrArg (List.map (Option.map Slot.index)) (map_parameterPositions m out)
    rw [List.map_map, List.map_map] at hm
    exact hm
  cases h with
  | noParameters hm => rw [arity, hm]; rfl
  | byIndex _ => exact hp
  | byIndexAndType _ _ => exact hp
  | byName hb _ => rw [hb] at hn; cases hn
  | byNameAndType hb _ _ => rw [hb] at hn; cases hn

/-- The inputs of a descriptor, by position, and its output fill the placeholders. -/
structure Layout (config : CallerConfig) (m : Method) (defaults : InterfaceMetadata)
    (x : Descriptor) (inputs : List Nat) : Prop where
  usable : m.placeholderCount ≤ 254
  unbound : ∀ i, x.inputs.slot? i = none ↔
    ∀ p, m.parameters[i]? = some p → p.type.isRowMapper = true
  slots : m.valueParameters.map (fun ip => x.inputs.slot? ip.1) =
    inputs.map fun p => some (Slot.index p)
  increasing : inputs.Pairwise (· < ·)
  complete : (m.outputPosition?.toList ++ inputs).Perm (List.range' 1 m.placeholderCount)
  registered : Registered m.outputPosition? x.output
  callString : x.callString =
    ProcCall.callString (m.metadata.package.or (defaults.package.or config.package))
      (m.metadata.schema.or (defaults.schema.or config.schema))
      (m.metadata.procedureName.getD (config.procedureNaming.apply m.name))
      (if m.metadata.returnValue.isSome then m.placeholderCount - 1 else m.placeholderCount)
      m.metadata.returnValue.isSome

theorem any_isBound_eq_false {o : Option Parameter} :
    o.any Parameter.isBound = false ↔ ∀ p, o = some p → p.type.isRowMapper = true := by
  cases o with
  | none => simp
  | some p => simp [Parameter.isBound]

/-- A method that can be planned is laid out when its placeholders go by position. -/
theorem placeholder_layout (hb : config.binding.byName = false)
    (hx : descriptor config m defaults = .ok x) :
    ∃ inputs, Layout config m defaults x inputs := by
  obtain ⟨out, hbuilt⟩ := built_of_descriptor hx
  obtain ⟨b, hchosen, hslot⟩ := hbuilt.chosen
  have hout := declared_of_outputSlot hbuilt.outputSlot
  refine ⟨inputPositions (arity m) out.position?, ?_⟩
  constructor
  · rw [← hout.count]
    exact hbuilt.positions
  · intro i
    rw [← Option.isSome_eq_false_iff.trans Option.isNone_iff_eq_none, hbuilt.slot?_isSome]
    exact any_isBound_eq_false
  · rw [← hchosen.map_slot? hb]
    exact List.map_congr_left fun ip _ => (hslot ip.1).1
  · exact pairwise_inputPositions (arity m) out.position?
  · rw [← hout.position, hout.total]
    exact perm_inputPositions hout.inside
  · rw [← hout.position]
    exact registered_of_output hbuilt.output
  · rw [hbuilt.callString, hbuilt.procedureName, hout.placeholders, hout.isFunction]

def middleOutput : Method where
  name := "find"
  parameters := [.unnamed (.scalar .text), .unnamed .rowMapper, .unnamed (.list (some .text))]
  returns := .list none
  metadata := { outParameter := some { index := some 2 } }

def middleOutputCall : Descriptor where
  method := "find"
  procedureName := "find"
  callString := "\x7bcall find(?,?,?)\x7d"
  parameterCount := 3
  wrapsFailures := true
  inputs := .resourceBacked (.byIndex [some 1, none, some 3])
  output := .byIndex 2 .refCursor
  extractor := .mappedList 1 none
  arraySlots := [⟨2, "VARCHAR"⟩]

theorem placeholder_layout_middleOutput :
    descriptor {} middleOutput {} = .ok middleOutputCall ∧
      ∃ inputs, Layout {} middleOutput {} middleOutputCall inputs :=
  ⟨rfl, placeholder_layout rfl rfl⟩

end Plan

end ProcCall
