import ProcCall.Proofs.Call.Rebinding
import ProcCall.Proofs.Plan.Styles
import ProcCall.Proofs.Planned

/-! # Calls under two binding styles

A method that can be called under two binding styles does the same under both: the
outcome is the same, and the databases differ only in how the inputs were addressed.
-/

namespace ProcCall

/-- The output slot has a scripted value, or its name is not the one of an input. -/
def OutputApart (config : CallerConfig) (m : Method) (s : Script) (out : Registrar) : Prop :=
  ∀ slot ∈ out.slot?, (s.outValues.lookup slot).isSome = true ∨
    ∀ i p name, (i, p) ∈ m.valueParameters → Plan.parameterName config m i p = .ok name →
      slot ≠ .name name

theorem Plan.Built.interchangeable {config : CallerConfig} {m : Method}
    {defaults : InterfaceMetadata} {b₁ b₂ : ParameterBinding} {out₁ out₂ : OutputSlot}
    {x₁ x₂ : Descriptor} {s : Script}
    (h₁ : Built (config.withBinding b₁) m defaults out₁ x₁)
    (h₂ : Built (config.withBinding b₂) m defaults out₂ x₂)
    (hout : OutputApart config m s x₁.output) : x₁.Interchangeable s x₂.inputs := by
  obtain ⟨hfields, hslots⟩ := h₁.styles h₂
  have hfields : x₁.withInputs x₂.inputs = x₂ := hfields
  have harrays : (x₁.withInputs x₂.inputs).arraySlots = x₂.arraySlots := by rw [hfields]
  have houtput : (x₁.withInputs x₂.inputs).output = x₂.output := by rw [hfields]
  refine ⟨⟨?_, hslots, h₁.slot?_ne_zero, h₂.slot?_ne_zero⟩, fun slot hs => ?_⟩
  · rw [h₁.usesArrays, h₂.usesArrays, ← harrays]
    rfl
  · refine (hout slot hs).imp_right fun hname i => ⟨?_, ?_⟩
    · exact h₁.slot?_ne_output hs hname i
    · exact h₂.slot?_ne_output (houtput ▸ hs) hname i

namespace Caller

theorem call_withInputs {x : Descriptor} {b : Binder} {db : Database} (method : String)
    (args : List Argument) (h : x.Interchangeable (db.script x.callString) b) :
    ((call Scripted.driver method args (.ok (x.withInputs b))).on db).1 =
        ((call Scripted.driver method args (.ok x)).on db).1 ∧
      ((call Scripted.driver method args (.ok (x.withInputs b))).on db).2.update db.calls.length
          CallRecord.unbound =
        ((call Scripted.driver method args (.ok x)).on db).2.update db.calls.length
          CallRecord.unbound := by
  have hcount : (x.withInputs b).parameterCount = x.parameterCount := rfl
  simp only [call, hcount]
  split
  · exact h.invoke args
  · exact ⟨rfl, rfl⟩

/-- Under two styles that a method can be planned for, the descriptors differ in their
binders only, these bind the same arguments, and an invocation gives the same and leaves
the same database but for the bindings of its record. -/
theorem styles_equivalent (interface : Interface) (config : CallerConfig) {m : Method}
    {b₁ b₂ : ParameterBinding} {x₁ x₂ : Descriptor}
    (hx₁ : Plan.descriptor (config.withBinding b₁) m interface.metadata = .ok x₁)
    (hx₂ : Plan.descriptor (config.withBinding b₂) m interface.metadata = .ok x₂) :
    { x₁ with inputs := x₂.inputs } = x₂ ∧
    (∀ i, (x₁.inputs.slot? i).isSome = (x₂.inputs.slot? i).isSome) ∧
    ∀ (method : String) (args : List Argument) (requests₁ requests₂ : List Request)
      (before₁ before₂ db : Database), interface.find? method = some m →
      OutputApart config m (db.script x₁.callString) x₁.output →
      let c₁ := (before₁.run (serveAll Scripted.driver
        { interface, config := config.withBinding b₁ } requests₁)).1
      let c₂ := (before₂.run (serveAll Scripted.driver
        { interface, config := config.withBinding b₂ } requests₂)).1
      let run₁ := db.run (c₁.invoke Scripted.driver method args)
      let run₂ := db.run (c₂.invoke Scripted.driver method args)
      run₁.1.1 = run₂.1.1 ∧
        run₁.2.update db.calls.length CallRecord.unbound =
          run₂.2.update db.calls.length CallRecord.unbound := by
  obtain ⟨out₁, h₁⟩ := Plan.built_of_descriptor hx₁
  obtain ⟨out₂, h₂⟩ := Plan.built_of_descriptor hx₂
  obtain ⟨hfields, hslots⟩ := h₁.styles h₂
  refine ⟨hfields, hslots, ?_⟩
  intro method args requests₁ requests₂ before₁ before₂ db hm hout c₁ c₂ run₁ run₂
  have hfound₁ : (c₁.descriptor method).1 = .ok x₁ := by
    rw [(faithful_session Scripted.driver requests₁ before₁).descriptor_of_find? hm, hx₁]
  have hfound₂ : (c₂.descriptor method).1 = .ok x₂ := by
    rw [(faithful_session Scripted.driver requests₂ before₂).descriptor_of_find? hm, hx₂]
  have hsame := call_withInputs method args (h₁.interchangeable h₂ hout)
  rw [show x₁.withInputs x₂.inputs = x₂ from hfields] at hsame
  simp only [run₁, run₂, run_invoke, hfound₁, hfound₂]
  exact ⟨hsame.1.symm, hsame.2.symm⟩

def rename : Method where
  name := "rename"
  parameters := [.named "newName" (.scalar .text)]
  returns := .scalar .text
  metadata := { outParameter := some { name := some "oldName" } }

def renameCall : Descriptor where
  method := "rename"
  procedureName := "rename"
  callString := "\x7bcall rename(?,?)\x7d"
  parameterCount := 1
  wrapsFailures := true
  inputs := .byIndex [some 1]
  output := .byName "oldName" .varchar
  extractor := .scalar .text
  arraySlots := []

theorem outputApart_rename (s : Script) : OutputApart {} rename s renameCall.output := by
  rintro _ ⟨⟩
  refine .inr fun i p name hp hs => ?_
  obtain ⟨rfl, rfl⟩ : i = 0 ∧ p = .named "newName" (.scalar .text) := by
    simpa using (List.mem_singleton.mp hp)
  obtain rfl : "newName" = name := Except.ok.inj hs
  decide

/-- Nothing is scripted for the output, so it gives NULL. -/
theorem styles_equivalent_rename :
    let interface : Interface := { name := "names", methods := [rename] }
    let named := renameCall.withInputs (.byNameAndType [some "newName"] [.varchar])
    let db : Database := { scripts := [(renameCall.callString, {})] }
    let byIndex := (Database.run {} (serveAll Scripted.driver
      { interface, config := CallerConfig.withBinding {} .indexOnly } [])).1
    let byName := (Database.run {} (serveAll Scripted.driver
      { interface, config := CallerConfig.withBinding {} .nameAndType } [])).1
    let run₁ := db.run (byIndex.invoke Scripted.driver "rename" [.value (.ofText "b")])
    let run₂ := db.run (byName.invoke Scripted.driver "rename" [.value (.ofText "b")])
    Plan.descriptor (CallerConfig.withBinding {} .indexOnly) rename {} = .ok renameCall ∧
      Plan.descriptor (CallerConfig.withBinding {} .nameAndType) rename {} = .ok named ∧
      interface.find? "rename" = some rename ∧
      OutputApart {} rename (db.script renameCall.callString) renameCall.output ∧
      run₁.1.1 = .ok .null ∧ run₁.1.1 = run₂.1.1 ∧
      run₁.2.update db.calls.length CallRecord.unbound =
        run₂.2.update db.calls.length CallRecord.unbound :=
  ⟨rfl, rfl, rfl, outputApart_rename _, rfl,
    (@styles_equivalent { name := "names", methods := [rename] } {} rename .indexOnly .nameAndType
      renameCall _ rfl rfl).2.2 "rename" [.value (.ofText "b")] [] [] {} {} _ rfl
        (outputApart_rename _)⟩

end Caller

end ProcCall
