import ProcCall.Proofs.FirstFailure
import ProcCall.Proofs.Plan.Built

/-! # Element type names

An array is made under the name of its element type. The declaration, the type mapping and
the naming rule of the caller can supply it, in this order. But the rule is not asked about
elements whose kind is known, so a kind without an SQL type is refused although the rule
may have a name for it.
-/

namespace ProcCall

namespace TypeMapping

/-- The mapping says no more than the types of the scalar kinds. -/
structure Plain (mapping : TypeMapping) : Prop where
  ofKind : mapping.ofKind = kindType mapping.scalarType?
  ofType : mapping.ofType = paramType mapping.ofKind

/-- Of the types that can be bound those are refused that are scalar kinds without an SQL type,
each by its name. -/
structure RefusesUnmapped (mapping : TypeMapping) : Prop where
  kind : ∀ k e, mapping.ofKind k = .error e ↔
    mapping.scalarType? k = none ∧ e = .unsupportedType k.name
  type : ∀ t e, t.isRowMapper = false →
    (mapping.ofType t = .error e ↔ ∃ k, t = .scalar k ∧ mapping.ofKind k = .error e)

theorem Plain.refusesUnmapped {mapping : TypeMapping} (h : mapping.Plain) :
    mapping.RefusesUnmapped := by
  constructor
  · intro k e
    rw [h.ofKind, kindType]
    cases mapping.scalarType? k <;> simp [eq_comm]
  · intro t e ht
    rw [h.ofType]
    cases t <;> simp_all [paramType, ParamType.isRowMapper]

end TypeMapping

namespace Plan

variable {config : CallerConfig} {m : Method} {defaults : InterfaceMetadata} {i : Nat}
  {p : Parameter} {ips : List (Nat × Parameter)}

def elementType? (config : CallerConfig) (p : Parameter) : Option SqlType :=
  p.type.elementKind?.bind fun k => (config.mapping.ofKind k).toOption

/-- The name that the first of the three sources supplies that has one. -/
def suppliedName? (config : CallerConfig) (m : Method) (i : Nat) (p : Parameter) :
    Option String :=
  p.metadata.typeName.or
    (((elementType? config p).map SqlType.name).or
      (config.elementNaming.bind fun n => n.name? m.name i p))

/-- Why no name is found for the elements of a parameter. -/
inductive Nameless (config : CallerConfig) (m : Method) (i : Nat) (p : Parameter) :
    ConfigError → Prop
  | unmapped {k : ScalarKind} {e : ConfigError} (hd : p.metadata.typeName = none)
      (hk : p.type.elementKind? = some k) (hm : config.mapping.ofKind k = .error e) :
      Nameless config m i p e
  | unsupplied (hk : p.type.elementKind? = none) (hs : suppliedName? config m i p = none) :
      Nameless config m i p (.unresolvedElementType m.name (some i))

theorem suppliedName?_of_elementTypeName {s : String}
    (h : elementTypeName config m i p = .ok s) : suppliedName? config m i p = some s := by
  unfold elementTypeName at h
  unfold suppliedName?
  split at h
  · rename_i name _ hd
    rw [hd, Option.some_or]
    exact congrArg some (Except.ok.inj h)
  · rename_i k hd hk
    obtain ⟨t, ht, rfl⟩ := map_eq_ok.mp h
    rw [hd, elementType?, hk, Option.bind_some, ht]
    rfl
  · rename_i hd hk
    split at h
    · rename_i name hr
      rw [hd, elementType?, hk, hr]
      exact congrArg some (Except.ok.inj h)
    · cases h

theorem elementTypeName_eq_error {e : ConfigError} :
    elementTypeName config m i p = .error e ↔ Nameless config m i p e := by
  constructor
  · intro h
    unfold elementTypeName at h
    split at h
    · cases h
    · rename_i k hd hk
      exact .unmapped hd hk (map_eq_error.mp h)
    · rename_i hd hk
      split at h
      · cases h
      · rename_i hr
        obtain rfl := Except.error.inj h
        refine .unsupplied hk ?_
        rw [suppliedName?, hd, elementType?, hk, hr]
        rfl
  · intro h
    cases h with
    | unmapped hd hk hm =>
      rw [elementTypeName, hd, hk]
      exact map_eq_error.mpr hm
    | unsupplied hk hs =>
      obtain ⟨hd, hs⟩ := Option.or_eq_none_iff.mp hs
      rw [elementTypeName, hd, hk]
      dsimp only
      rw [(Option.or_eq_none_iff.mp hs).2]

theorem failsAtFirst_arraySlotsOf (config : CallerConfig) (m : Method)
    (ips : List (Nat × Parameter)) :
    FailsAtFirst (fun ip => Nameless config m ip.1 ip.2) (ips.filter takesArray)
      (arraySlotsOf config m ips) := by
  induction ips with
  | nil => exact failsAtFirst_ok []
  | cons ip ips ih =>
    rw [arraySlotsOf]
    by_cases hp : ip.2.type.isArray = true
    · rw [if_pos hp, List.filter_cons_of_pos (p := takesArray) hp]
      have hname : FailsAtFirst (fun ip => Nameless config m ip.1 ip.2) [ip]
          (elementTypeName config m ip.1 ip.2) :=
        failsAtFirst_singleton fun _ => elementTypeName_eq_error
      exact hname.bind fun typeName _ => ih.bind_ok fun slots => ⟨ip.1, typeName⟩ :: slots
    · rw [if_neg hp, List.filter_cons_of_neg (p := takesArray) hp]
      exact ih

/-- The arrays of a method that can be planned have the names that are supplied. No name is
found first for the first array parameter that has none, or has elements of a kind that is
known and that the mapping refuses, which a mapping that says no more than the types of the
scalar kinds does for want of such a type. -/
theorem element_names (config : CallerConfig) (m : Method) (defaults : InterfaceMetadata) :
    (∀ x, descriptor config m defaults = .ok x →
      List.Forall₂ (fun ip s => s.argument = ip.1 ∧
          suppliedName? config m ip.1 ip.2 = some s.typeName)
        (m.valueParameters.filter takesArray) x.arraySlots) ∧
    FailsAtFirst (fun ip => Nameless config m ip.1 ip.2) (m.valueParameters.filter takesArray)
      (arraySlots config m) ∧
    (config.mapping.Plain → config.mapping.RefusesUnmapped) := by
  refine ⟨fun x hx => ?_, failsAtFirst_arraySlotsOf config m m.valueParameters,
    TypeMapping.Plain.refusesUnmapped⟩
  obtain ⟨out, hbuilt⟩ := built_of_descriptor hx
  exact (forall₂_arraySlotsOf hbuilt.arraySlots).imp fun ip s hs =>
    ⟨hs.1, suppliedName?_of_elementTypeName hs.2⟩

def tagging : Method where
  name := "tag"
  parameters := [.named "ids" (.list (some .uuid))]

def namingAll : CallerConfig where
  elementNaming := some (ElementPattern.naming { lead := "T_" })

theorem element_names_tagging :
    namingAll.mapping.Plain ∧
      (∀ e, arraySlots namingAll tagging = .error e ↔
        FirstFailure (fun ip => Nameless namingAll tagging ip.1 ip.2)
          [(0, .named "ids" (.list (some .uuid)))] e) ∧
      ∀ e, namingAll.mapping.ofKind .uuid = .error e ↔
        namingAll.mapping.scalarType? .uuid = none ∧ e = .unsupportedType "uuid" := by
  have hplain : namingAll.mapping.Plain := ⟨rfl, rfl⟩
  obtain ⟨_, hfirst, hmapping⟩ := element_names namingAll tagging {}
  exact ⟨hplain, hfirst, (hmapping hplain).kind .uuid⟩

/-- A name is supplied, but it is not asked for. -/
theorem supplied_name_unused :
    suppliedName? namingAll tagging 0 (.named "ids" (.list (some .uuid))) =
        some "T_tag_0_ids" ∧
      descriptor namingAll tagging {} = .error (.unsupportedType "uuid") :=
  ⟨by decide +kernel, rfl⟩

end Plan

end ProcCall
