import ProcCall.Proofs.Plan.ElementNames
import ProcCall.Proofs.Plan.Layout

/-! # Rejected declarations

Planning a method checks its declaration against ten rules, one after the other, and fails
with the error of the first that is broken. The checks that are made again while positions
and types are put together never fail.
-/

namespace ProcCall

namespace Method

def declaresOutput (m : Method) : Bool :=
  m.metadata.outParameter.isSome || m.metadata.returnValue.isSome

def outputSqlType? (m : Method) : Option SqlType :=
  (m.metadata.outParameter.bind OutParameter.sqlType).or
    (m.metadata.returnValue.bind ReturnValue.sqlType)

end Method

namespace Plan

open Parameter

/-! ## The rules -/

inductive Rule where
  /-- There is an output parameter or a return value, not both. -/
  | oneOutput
  /-- The declared position of the output is one of the call. -/
  | outputPosition
  /-- A method with an output returns something. -/
  | outputResult
  /-- There are enough positions for inputs and output. -/
  | positions
  /-- An input has an SQL type if types go along. -/
  | inputTypes
  /-- An input has a name if inputs go by name. -/
  | inputNames
  /-- An output parameter has a name if inputs go by name. -/
  | outputName
  /-- The output has an SQL type. -/
  | outputType
  /-- The kind of a list is known if no row mapper makes its items. -/
  | listItems
  /-- The elements of an array have a type name. -/
  | arrayElements
  deriving DecidableEq, Repr

def Rule.order : List Rule :=
  [.oneOutput, .outputPosition, .outputResult, .positions, .inputTypes, .inputNames, .outputName,
    .outputType, .listItems, .arrayElements]

theorem Rule.mem_order (r : Rule) : r ∈ Rule.order := by
  cases r <;> decide

/-- An input whose type the mapping refuses. -/
def Untyped (config : CallerConfig) (p : Parameter) (e : ConfigError) : Prop :=
  p.metadata.sqlType = none ∧ config.mapping.ofType p.type = .error e

def Unnamed (m : Method) (i : Nat) (p : Parameter) (e : ConfigError) : Prop :=
  p.metadata.name = none ∧ p.name = none ∧ e = .unresolvedParameterName m.name i

/-- A declaration breaks a rule, and this is the error. -/
def Breaks (config : CallerConfig) (m : Method) : Rule → ConfigError → Prop
  | .oneOutput, e =>
    m.metadata.outParameter.isSome = true ∧ m.metadata.returnValue.isSome = true ∧
      e = .ambiguousOutput m.name
  | .outputPosition, e => ∃ spec i, m.metadata.outParameter = some spec ∧ spec.index = some i ∧
    (i.toNat = 0 ∨ arity m + 1 < i.toNat) ∧ e = .invalidOutIndex m.name i.toNat (arity m + 1)
  | .outputResult, e =>
    m.declaresOutput = true ∧ m.returns = .unit ∧ e = .missingReturnType m.name
  | .positions, e =>
    254 < m.placeholderCount ∧ e = .tooManyParameters m.name m.placeholderCount
  | .inputTypes, e => config.binding.typed = true ∧
    FirstFailure (fun ip => Untyped config ip.2) m.valueParameters e
  | .inputNames, e => config.binding.byName = true ∧
    FirstFailure (fun ip => Unnamed m ip.1 ip.2) m.valueParameters e
  | .outputName, e => config.binding.byName = true ∧
    ∃ spec, m.metadata.outParameter = some spec ∧ spec.name = none ∧
      e = .unresolvedOutParameterName m.name
  | .outputType, e => m.declaresOutput = true ∧ m.outputSqlType? = none ∧
    ∃ k, m.returns = .scalar k ∧ config.mapping.ofKind k = .error e
  | .listItems, e => m.returns = .list none ∧ (∀ p ∈ m.parameters, p.type.isRowMapper = false) ∧
    e = .unresolvedElementType m.name none
  | .arrayElements, e =>
    FirstFailure (fun ip => Nameless config m ip.1 ip.2) (m.valueParameters.filter takesArray) e

variable {config : CallerConfig} {m : Method} {defaults : InterfaceMetadata} {out : OutputSlot}

/-! ## The output slot -/

theorem failsAtFirst_outputSlot (config : CallerConfig) (m : Method) :
    FailsAtFirst (Breaks config m) [.oneOutput, .outputPosition] (outputSlot m) := by
  unfold outputSlot
  rcases ho : m.metadata.outParameter with _ | spec <;>
    rcases hr : m.metadata.returnValue with _ | result
  · exact failsAtFirst_unbroken rfl (by simp [Breaks, ho])
  · exact failsAtFirst_unbroken rfl (by simp [Breaks, ho])
  · refine failsAtFirst_tail (by simp [Breaks, hr]) (failsAtFirst_singleton fun e => ?_)
    rcases hi : spec.index with _ | i
    · simp [Breaks, ho, hi]
    · by_cases hin : i.toNat = 0 ∨ arity m + 1 < i.toNat
      · simpa [Breaks, ho, hi, hin] using eq_comm
      · simp [Breaks, ho, hi, hin]
  · refine failsAtFirst_head ⟨.ambiguousOutput m.name, by simp [Breaks, ho, hr]⟩ fun e => ?_
    simp [Breaks, ho, hr, eq_comm]

theorem ne_none_iff_of_outputSlot (h : outputSlot m = .ok out) :
    out ≠ .none ↔ m.declaresOutput = true := by
  rcases outputSlot_cases h with ⟨ho, hr, rfl⟩ | ⟨spec, ho, hr, rfl⟩ | ⟨spec, i, ho, hr, rfl, _⟩
  · simp [Method.declaresOutput, ho, hr]
  · simp [Method.declaresOutput, ho, hr]
  · simp [Method.declaresOutput, ho, hr]

theorem failsAtFirst_checkReturn (config : CallerConfig) (h : outputSlot m = .ok out) :
    FailsAtFirst (Breaks config m) [.outputResult] (checkReturn m out) := by
  refine failsAtFirst_singleton fun e => ?_
  have hout := ne_none_iff_of_outputSlot h
  unfold checkReturn
  split
  · rename_i hc
    exact ⟨fun he => ⟨hout.mp hc.1, hc.2, (Except.error.inj he).symm⟩,
      fun hb => congrArg _ hb.2.2.symm⟩
  · rename_i hc
    exact ⟨nofun, fun hb => absurd ⟨hout.mpr hb.1, hb.2.1⟩ hc⟩

theorem failsAtFirst_checkPositions (config : CallerConfig) (h : outputSlot m = .ok out) :
    FailsAtFirst (Breaks config m) [.positions] (checkPositions m out) := by
  refine failsAtFirst_singleton fun e => ?_
  rw [checkPositions, (declared_of_outputSlot h).count]
  split
  · rename_i hc
    exact ⟨fun he => ⟨hc, (Except.error.inj he).symm⟩, fun hb => congrArg _ hb.2.symm⟩
  · rename_i hc
    exact ⟨nofun, fun hb => absurd hb.1 hc⟩

/-! ## The inputs -/

theorem parameterType_eq_error {p : Parameter} (hb : p.isBound = true) {e : ConfigError} :
    parameterType config p = .error e ↔ Untyped config p e := by
  have hr : ¬ p.type.isRowMapper = true := by simpa [isBound] using hb
  unfold parameterType Untyped
  rcases p.metadata.sqlType with _ | t
  · simp [hr]
  · simp

theorem exists_parameterType {p : Parameter} (hb : p.isBound = false) :
    ∃ t, parameterType config p = .ok t := by
  unfold parameterType
  split
  · exact ⟨_, rfl⟩
  · rw [if_pos (by simpa [isBound] using hb)]
    exact ⟨_, rfl⟩

theorem failsAtFirst_parameterTypes (config : CallerConfig) (ps : List Parameter) :
    FailsAtFirst (fun ip => Untyped config ip.2) (numbered ps)
      (ps.mapM (parameterType config)) := by
  induction ps with
  | nil => exact failsAtFirst_ok []
  | cons p ps ih =>
    have hrest : FailsAtFirst (fun ip => Untyped config ip.2)
        ((numbered ps).map (Prod.map (· + 1) id)) (ps.mapM (parameterType config)) := by
      intro e
      rw [firstFailure_map]
      exact ih e
    rw [List.mapM_cons]
    by_cases hb : p.isBound = true
    · rw [numbered_cons_bound hb]
      have hp : FailsAtFirst (fun ip => Untyped config ip.2) [((0 : Nat), p)]
          (parameterType config p) :=
        failsAtFirst_singleton fun _ => parameterType_eq_error hb
      exact hp.bind fun t _ => hrest.bind_ok (t :: ·)
    · have hu : p.isBound = false := Bool.eq_false_iff.mpr hb
      obtain ⟨t, ht⟩ : ∃ t, parameterType config p = .ok t := exists_parameterType hu
      rw [numbered_cons_unbound hu, ht]
      exact hrest.bind_ok (t :: ·)

theorem parameterName_eq_error {i : Nat} {p : Parameter} {e : ConfigError} :
    parameterName config m i p = .error e ↔ Unnamed m i p e := by
  unfold parameterName Unnamed
  rcases p.metadata.name with _ | s
  · rcases p.name with _ | s
    · simp [eq_comm]
    · simp
  · simp

theorem failsAtFirst_namesFrom (config : CallerConfig) (m : Method) (i : Nat)
    (ps : List Parameter) :
    FailsAtFirst (fun ip => Unnamed m (i + ip.1) ip.2) (numbered ps)
      (namesFrom config m i ps) := by
  induction ps generalizing i with
  | nil => exact failsAtFirst_ok []
  | cons p ps ih =>
    have hrest : FailsAtFirst (fun ip => Unnamed m (i + ip.1) ip.2)
        ((numbered ps).map (Prod.map (· + 1) id)) (namesFrom config m (i + 1) ps) := by
      intro e
      rw [firstFailure_map, ih (i + 1) e]
      simp only [Nat.add_right_comm i 1, Prod.map_fst, Prod.map_snd, id, Nat.add_assoc]
    rw [namesFrom]
    by_cases hb : p.isBound = true
    · rw [if_pos hb, numbered_cons_bound hb]
      have hp : FailsAtFirst (fun ip => Unnamed m (i + ip.1) ip.2) [((0 : Nat), p)]
          ((parameterName config m i p).map some) :=
        failsAtFirst_singleton fun _ => map_eq_error.trans parameterName_eq_error
      exact hp.bind fun name _ => hrest.bind_ok (name :: ·)
    · rw [if_neg hb, numbered_cons_unbound (Bool.eq_false_iff.mpr hb)]
      exact hrest.bind_ok (none :: ·)

theorem le_positions_of_mem (h : Declared m out) {q : Nat}
    (hq : q ∈ inputPositions (arity m) out.position?) : q ≤ out.positions (arity m) := by
  have hmem := (perm_inputPositions h.inside).mem_iff.mp (List.mem_append_right _ hq)
  rw [h.count, h.total]
  have := List.mem_range'_1.mp hmem
  omega

theorem usablePosition_eq_ok {q : Nat} (h : q ≤ maxPosition) : usablePosition m q = .ok q :=
  if_neg (Nat.not_lt.mpr h)

theorem usablePositions_eq_ok (h : Declared m out)
    (hpositions : out.positions (arity m) ≤ maxPosition) :
    usablePositions m out.position? = .ok (parameterPositions m out.position?) := by
  refine mapM_eq_self fun position hp => ?_
  cases position with
  | none => rfl
  | some q =>
    obtain ⟨i, hi⟩ := List.mem_iff_getElem?.mp hp
    have hq := mem_of_place (Option.join_eq_some_iff.mpr hi)
    have hle := Nat.le_trans (le_positions_of_mem h hq) hpositions
    rw [Option.mapM_some, usablePosition_eq_ok hle]
    rfl

theorem failsAtFirst_binder (config : CallerConfig) (h : Declared m out)
    (hpositions : out.positions (arity m) ≤ maxPosition) :
    FailsAtFirst (Breaks config m) [.inputTypes, .inputNames]
      (binder config m out.position?) := by
  have hp := usablePositions_eq_ok h hpositions
  have htypes (hb : config.binding.typed = true) :
      FailsAtFirst (Breaks config m) [.inputTypes] (parameterTypes config m) := by
    refine failsAtFirst_singleton fun e => ?_
    exact (failsAtFirst_parameterTypes config m.parameters e).trans (and_iff_right hb).symm
  have hnames (hb : config.binding.byName = true) :
      FailsAtFirst (Breaks config m) [.inputNames] (namesFrom config m 0 m.parameters) := by
    refine failsAtFirst_singleton fun e => ?_
    have hn := failsAtFirst_namesFrom config m 0 m.parameters e
    simp only [Nat.zero_add] at hn
    exact hn.trans (and_iff_right hb).symm
  unfold binder
  split
  · rename_i ha
    refine failsAtFirst_unbroken rfl ?_
    simp [Breaks, List.length_eq_zero_iff.mp ha, not_firstFailure_nil]
  · split <;> rename_i hb
    · rw [hp]
      exact failsAtFirst_unbroken rfl
        (by simp [Breaks, hb, ParameterBinding.typed, ParameterBinding.byName])
    · rw [hp]
      change FailsAtFirst (Breaks config m) ([.inputTypes] ++ [.inputNames]) _
      refine (htypes (by rw [hb]; rfl)).bind fun types _ => ?_
      exact failsAtFirst_unbroken rfl (by simp [Breaks, hb, ParameterBinding.byName])
    · exact failsAtFirst_tail (by simp [Breaks, hb, ParameterBinding.typed])
        ((hnames (by rw [hb]; rfl)).bind_ok _)
    · change FailsAtFirst (Breaks config m) ([.inputTypes] ++ [.inputNames]) _
      refine (htypes (by rw [hb]; rfl)).bind fun types _ => ?_
      exact (hnames (by rw [hb]; rfl)).bind_ok _

/-! ## The output -/

theorem outputType_eq_error {declared : Option SqlType} (hr : m.returns ≠ .unit)
    {e : ConfigError} : outputType config m declared = .error e ↔ declared = none ∧
      ∃ k, m.returns = .scalar k ∧ config.mapping.ofKind k = .error e := by
  unfold outputType
  rcases declared with _ | t
  · unfold returnType
    rcases hm : m.returns with _ | k | kind | element
    · exact absurd hm hr
    · simp
    · simp
    · simp
  · simp

theorem exists_registrar {name : Option String} {i : Nat} (hi : i ≤ maxPosition) (t : SqlType) :
    ∃ r, registrar m name i t = .ok r := by
  cases name with
  | some s => exact ⟨_, rfl⟩
  | none => exact ⟨_, map_eq_ok.mpr ⟨i, usablePosition_eq_ok hi, rfl⟩⟩

theorem failsAtFirst_registrar {declared : Option SqlType} {name : Option String} {i : Nat}
    (hd : m.declaresOutput = true) (ht : m.outputSqlType? = declared) (hr : m.returns ≠ .unit)
    (hi : i ≤ maxPosition) :
    FailsAtFirst (Breaks config m) [.outputType]
      (outputType config m declared >>= registrar m name i) := by
  have htype : FailsAtFirst (Breaks config m) [.outputType] (outputType config m declared) := by
    refine failsAtFirst_singleton fun e => ?_
    rw [outputType_eq_error hr, Breaks, ht, and_iff_right hd]
  rw [← List.append_nil [Rule.outputType]]
  refine htype.bind fun t _ => ?_
  obtain ⟨r, hr⟩ : ∃ r, registrar m name i t = .ok r := exists_registrar hi t
  exact failsAtFirst_unbroken hr nofun

theorem failsAtFirst_output (config : CallerConfig) (h : outputSlot m = .ok out)
    (hreturn : checkReturn m out = .ok ()) (hpositions : out.positions (arity m) ≤ maxPosition) :
    FailsAtFirst (Breaks config m) [.outputName, .outputType] (output config m out) := by
  have hr (hout : m.declaresOutput = true) : m.returns ≠ .unit := by
    intro hu
    rw [checkReturn, if_pos ⟨(ne_none_iff_of_outputSlot h).mpr hout, hu⟩] at hreturn
    cases hreturn
  rcases outputSlot_cases h with ⟨ho, hret, rfl⟩ | ⟨spec, ho, hret, rfl⟩ |
    ⟨spec, i, ho, hret, rfl, _, _, hi⟩
  · exact failsAtFirst_unbroken rfl (by simp [Breaks, Method.declaresOutput, ho, hret])
  · have hd : m.declaresOutput = true := by simp [Method.declaresOutput, ho, hret]
    refine failsAtFirst_tail (by simp [Breaks, ho]) ?_
    exact failsAtFirst_registrar hd (by simp [Method.outputSqlType?, ho, hret]) (hr hd) (by decide)
  · have hd : m.declaresOutput = true := by simp [Method.declaresOutput, ho, hret]
    rw [output]
    split
    · rename_i hn
      refine failsAtFirst_head ⟨.unresolvedOutParameterName m.name, by simp [Breaks, ho, hn]⟩ ?_
      simp [Breaks, ho, hn, eq_comm]
    · rename_i hn
      refine failsAtFirst_tail ?_ ?_
      · rintro e ⟨hb, spec', ho', hs, _⟩
        obtain rfl := Option.some.inj (ho.symm.trans ho')
        exact hn ⟨hs, hb⟩
      · exact failsAtFirst_registrar hd (by simp [Method.outputSqlType?, ho, hret]) (hr hd)
          (Nat.le_trans hi hpositions)

/-! ## The result and the whole plan -/

theorem failsAtFirst_extractor (config : CallerConfig) (m : Method)
    (defaults : InterfaceMetadata) :
    FailsAtFirst (Breaks config m) [.listItems] (extractor config m defaults) := by
  refine failsAtFirst_singleton fun e => ?_
  unfold extractor
  rcases hm : m.returns with _ | k | kind | element
  · simp [Breaks, hm]
  · simp [Breaks, hm]
  · dsimp only
    split
    · rename_i mapper hf
      have hany : m.parameters.any (fun p => p.type.isRowMapper) = true := by
        rw [← List.findIdx?_isSome, hf]
        rfl
      obtain ⟨p, hp, hrow⟩ := List.any_eq_true.mp hany
      exact ⟨nofun, fun hb => Bool.noConfusion (hrow.symm.trans (hb.2.1 p hp))⟩
    · simp [Breaks, hm]
    · rename_i hf
      exact ⟨fun he => ⟨hm, List.findIdx?_eq_none_iff.mp hf, (Except.error.inj he).symm⟩,
        fun hb => congrArg _ hb.2.2.symm⟩
  · simp [Breaks, hm]

/-- Planning a method fails exactly if its declaration breaks one of the rules, and then with
the error of the first that is broken. Of the types that can be bound, a mapping that says no
more than those of the scalar kinds refuses the kinds without one, as unsupported. -/
theorem rejected_at_first_broken_rule (config : CallerConfig) (m : Method)
    (defaults : InterfaceMetadata) :
    ((∃ e, descriptor config m defaults = .error e) ↔ ∃ rule e, Breaks config m rule e) ∧
      (∀ e, descriptor config m defaults = .error e ↔
        FirstFailure (Breaks config m) Rule.order e) ∧
      (config.mapping.Plain → config.mapping.RefusesUnmapped) := by
  have hfirst : FailsAtFirst (Breaks config m) Rule.order (descriptor config m defaults) := by
    refine (failsAtFirst_outputSlot config m).bind fun out hout => ?_
    have hdeclared := declared_of_outputSlot hout
    refine (failsAtFirst_checkReturn config hout).bind fun _ hreturn => ?_
    refine (failsAtFirst_checkPositions config hout).bind fun _ hcheck => ?_
    have hpositions := positions_of_checkPositions hcheck
    refine (failsAtFirst_binder config hdeclared hpositions).bind fun inputs _ => ?_
    refine (failsAtFirst_output config hout hreturn hpositions).bind fun output _ => ?_
    refine (failsAtFirst_extractor config m defaults).bind fun extractor _ => ?_
    have harrays : FailsAtFirst (Breaks config m) [.arrayElements] (arraySlots config m) :=
      failsAtFirst_singleton (failsAtFirst_arraySlotsOf config m m.valueParameters)
    exact harrays.bind_ok _
  refine ⟨?_, hfirst, TypeMapping.Plain.refusesUnmapped⟩
  have hexists : (∃ e, FirstFailure (Breaks config m) Rule.order e) ↔
      ∃ r ∈ Rule.order, ∃ e, Breaks config m r e := exists_firstFailure
  simp only [← hfirst _, Rule.mem_order, true_and] at hexists
  exact hexists

/-- Types go along by name, the second input has neither a type nor a name, and no more is known
of the result; the type counts. -/
theorem rejected_at_first_broken_rule_untyped :
    let config : CallerConfig := { binding := .nameAndType, mapping := .oracle }
    let m : Method :=
      { name := "tag", parameters := [.named "id" (.scalar .bool), .unnamed (.scalar .uuid)]
        returns := .list none }
    let e : ConfigError := .unsupportedType "uuid"
    config.mapping.Plain ∧ descriptor config m {} = .error e ∧
      FirstFailure (Breaks config m) Rule.order e ∧
      (config.mapping.ofType (.scalar .uuid) = .error e ↔
        ∃ k, ParamType.scalar .uuid = .scalar k ∧ config.mapping.ofKind k = .error e) := by
  intro config m e
  have hplain : config.mapping.Plain := ⟨rfl, rfl⟩
  obtain ⟨_, hfirst, hmapping⟩ := rejected_at_first_broken_rule config m {}
  exact ⟨hplain, rfl, (hfirst e).mp rfl, (hmapping hplain).type _ _ rfl⟩

/-- The output has a position that does not exist, the method returns nothing and no name is
known; the position counts. -/
example :
    descriptor { binding := .nameOnly }
      { name := "find", parameters := [.unnamed (.scalar .uuid)]
        metadata := { outParameter := some { index := some 9 } } } {} =
      .error (.invalidOutIndex "find" 9 2) := rfl

end Plan

end ProcCall
