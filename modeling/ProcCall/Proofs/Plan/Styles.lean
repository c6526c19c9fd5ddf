import ProcCall.Proofs.Call.Binding
import ProcCall.Proofs.Plan.Layout

/-! # Binding styles

The style of a caller says how inputs are addressed and whether their types go along. All
else in a descriptor is the same for every style, and so are the arguments that are bound.
-/

namespace ProcCall.Plan

open Parameter

variable {config : CallerConfig} {m : Method} {defaults : InterfaceMetadata}
  {out : OutputSlot} {x : Descriptor}

/-! ## What an input is addressed by -/

/-- An input is addressed by one of the input positions or by the name that it resolves to. -/
inductive Addressed (config : CallerConfig) (m : Method) (out : Option Nat) (i : Nat) : Slot → Prop
  | position {q : Nat} (hq : q ∈ inputPositions (arity m) out) :
      Addressed config m out i (.index q)
  | name {p : Parameter} {s : String} (hp : (i, p) ∈ m.valueParameters)
      (hs : parameterName config m i p = .ok s) : Addressed config m out i (.name s)

theorem addressed_position {out : Option Nat} {i : Nat} {slot : Slot}
    (h : (parameterPositions m out)[i]?.join.map Slot.index = some slot) :
    Addressed config m out i slot := by
  obtain ⟨q, hq, rfl⟩ := Option.map_eq_some_iff.mp h
  exact .position (mem_of_place hq)

theorem addressed_name {out : Option Nat} {names : List (Option String)} {i : Nat} {slot : Slot}
    (hn : namesFrom config m 0 m.parameters = .ok names)
    (h : names[i]?.join.map Slot.name = some slot) : Addressed config m out i slot := by
  obtain ⟨s, hs, rfl⟩ := Option.map_eq_some_iff.mp h
  obtain ⟨p, hp, hb, hname⟩ := parameterName_of_namesFrom hn hs
  rw [Nat.zero_add] at hname
  exact .name (mem_numbered.mpr ⟨hp, hb⟩) hname

theorem Chosen.addressed {out : Option Nat} {b : Binder} (h : Chosen config m out b) {i : Nat}
    {slot : Slot} (hs : b.slot? i = some slot) : Addressed config m out i slot := by
  cases h with
  | noParameters _ => cases hs
  | byIndex _ => exact addressed_position hs
  | byIndexAndType _ _ => exact addressed_position hs
  | byName _ hn => exact addressed_name hn hs
  | byNameAndType _ _ hn => exact addressed_name hn hs

theorem Built.addressed (h : Built config m defaults out x) {i : Nat} {slot : Slot}
    (hs : x.inputs.slot? i = some slot) : Addressed config m out.position? i slot := by
  obtain ⟨b, hb, hx⟩ := h.chosen
  rw [(hx i).1] at hs
  exact hb.addressed hs

theorem Built.slot?_ne_zero (h : Built config m defaults out x) (i : Nat) :
    x.inputs.slot? i ≠ some (.index 0) := by
  intro hs
  cases h.addressed hs with
  | position hq => exact Nat.lt_irrefl 0 (pos_of_mem_inputPositions hq)

theorem Built.slot?_ne_output (h : Built config m defaults out x) {slot : Slot}
    (hout : x.output.slot? = some slot)
    (hname : ∀ i p s, (i, p) ∈ m.valueParameters → parameterName config m i p = .ok s →
      slot ≠ .name s) (i : Nat) : x.inputs.slot? i ≠ some slot := by
  intro hs
  have hr := registered_of_output h.output
  cases h.addressed hs with
  | position hq =>
    rcases hx : x.output with _ | ⟨o, t⟩ | ⟨s, t⟩ <;> rw [hx] at hout hr
    · cases hout
    · cases hout
      rw [hr] at hq
      exact output_notMem_inputPositions _ _ hq
    · cases hout
  | name hp hresolved => exact hname i _ _ hp hresolved rfl

/-! ## What the style does not change -/

variable {b₁ b₂ : ParameterBinding}

theorem Built.usesArrays (h : Built config m defaults out x) :
    x.inputs.usesArrays = !x.arraySlots.isEmpty := by
  obtain ⟨b, hb, hx⟩ := h.inputs
  rw [hx]
  split
  · rename_i he
    rw [he]
    cases hb <;> rfl
  · rename_i he
    rw [Bool.eq_false_iff.mpr he]
    rfl

theorem output_withBinding {r₁ r₂ : Registrar}
    (h₁ : output (config.withBinding b₁) m out = .ok r₁)
    (h₂ : output (config.withBinding b₂) m out = .ok r₂) : r₁ = r₂ := by
  cases out with
  | none => exact Except.ok.inj (h₁.symm.trans h₂)
  | returnValue spec => exact Except.ok.inj (h₁.symm.trans h₂)
  | outParameter spec i =>
    rw [output] at h₁ h₂
    split at h₁
    · cases h₁
    · split at h₂
      · cases h₂
      · exact Except.ok.inj (h₁.symm.trans h₂)

theorem arraySlotsOf_withBinding (b : ParameterBinding) (ips : List (Nat × Parameter)) :
    arraySlotsOf (config.withBinding b) m ips = arraySlotsOf config m ips := by
  refine arraySlotsOf_congr (fun i p => ?_) ips
  rfl

/-- Under two styles that a method can be planned for, the descriptors differ in their
binders only, and these bind the same arguments. -/
theorem Built.styles {x₁ x₂ : Descriptor} {out₁ out₂ : OutputSlot}
    (h₁ : Built (config.withBinding b₁) m defaults out₁ x₁)
    (h₂ : Built (config.withBinding b₂) m defaults out₂ x₂) :
    { x₁ with inputs := x₂.inputs } = x₂ ∧
      ∀ i, (x₁.inputs.slot? i).isSome = (x₂.inputs.slot? i).isSome := by
  -- The steps for these parts do not read the style.
  obtain rfl : out₁ = out₂ := Except.ok.inj (h₁.outputSlot.symm.trans h₂.outputSlot)
  have hextractor : x₁.extractor = x₂.extractor :=
    Except.ok.inj (h₁.extractor.symm.trans h₂.extractor)
  have harrays : x₁.arraySlots = x₂.arraySlots := by
    have h := h₂.arraySlots
    rw [Plan.arraySlots, arraySlotsOf_withBinding, ← arraySlotsOf_withBinding b₁] at h
    exact Except.ok.inj (h₁.arraySlots.symm.trans h)
  have hname : x₁.procedureName = x₂.procedureName :=
    h₁.procedureName.trans h₂.procedureName.symm
  have hcall : x₁.callString = x₂.callString := by
    rw [h₁.callString, h₂.callString, hname]
    rfl
  constructor
  · cases x₂
    simp only [Descriptor.mk.injEq]
    exact ⟨h₁.method.trans h₂.method.symm, hname, hcall,
      h₁.parameterCount.trans h₂.parameterCount.symm,
      h₁.wrapsFailures.trans h₂.wrapsFailures.symm, trivial,
      output_withBinding h₁.output h₂.output, hextractor, harrays⟩
  · intro i
    rw [h₁.slot?_isSome, h₂.slot?_isSome]

end ProcCall.Plan
