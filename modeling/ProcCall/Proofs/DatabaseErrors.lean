import ProcCall.Proofs.Call.Origins
import ProcCall.Proofs.Call.Quiet
import ProcCall.Proofs.Plan.Styles
import ProcCall.Proofs.Planned

/-! # Errors of the database

A call that was planned uses the driver as it is meant to be used: it binds at no position
0, reads no output that it has not registered, asks for types only where they are offered
and releases only arrays that exist. So when the database was set up without an error and
no row mapper fails, no error of the database is in what an invocation reports.
-/

namespace ProcCall

structure Script.ErrorFree (s : Script) : Prop where
  prepare : s.prepareError = none
  execute : s.error = none
  close : s.closeError = none

namespace Database

/-- The database was set up without an error. -/
structure FaultFree (db : Database) : Prop where
  scripts : ∀ s ∈ db.scripts, s.2.ErrorFree
  quiet : db.Quiet

theorem FaultFree.script {db : Database} (h : db.FaultFree) (call : String) :
    (db.script call).ErrorFree := by
  rw [Database.script]
  rcases hl : db.scripts.lookup call with _ | s
  · exact ⟨rfl, rfl, rfl⟩
  · obtain ⟨before, after, hs, _⟩ := List.lookup_eq_some_iff.mp hl
    exact h.scripts (call, s) (by simp [hs])

end Database

/-- Every row mapper among the arguments gives a value for every row. -/
def MapAll (args : List Argument) : Prop :=
  ∀ m, .mapper m ∈ args → ∀ row i, ∃ v, m.apply row i = .ok v

theorem Fault.Origin.backend?_eq_none {x : Descriptor} {args : List Argument} {db : Database}
    {f : Fault} (h : f.Origin x args db) (hdb : db.FaultFree) (hargs : MapAll args) :
    f.backend? = none := by
  have hs := hdb.script x.callString
  cases h with
  | shape i expected => rfl
  | result h =>
    cases h with
    | mapper hm he =>
      obtain ⟨v, hv⟩ := hargs _ hm _ _
      cases he.symm.trans hv
    | _ => rfl
  | creation h => cases hdb.quiet.creations.symm.trans h
  | prepare h => cases hs.prepare.symm.trans h
  | execute h => cases hs.execute.symm.trans h
  | close h => cases hs.close.symm.trans h
  | release h => cases hdb.quiet.releases ▸ h

theorem Fault.Origin.slot?_eq_none {x : Descriptor} {args : List Argument} {db : Database}
    (h : Fault.noOutParameter.Origin x args db) : x.output.slot? = none := by
  cases h with
  | result h =>
    cases h with
    | noOutput h => exact h

theorem Descriptor.wrapFault_eq_self (x : Descriptor) {f : Fault} (h : f.backend? = none) :
    x.wrapFault f = f := by
  cases f with
  | backend e => cases h
  | _ => rfl

theorem Plan.Built.undeclared {config : CallerConfig} {m : Method} {defaults : InterfaceMetadata}
    {out : OutputSlot} {x : Descriptor} (h : Built config m defaults out x)
    (hx : x.output.slot? = none) :
    m.metadata.outParameter = none ∧ m.metadata.returnValue = none := by
  have hr := registered_of_output h.output
  have hposition := (declared_of_outputSlot h.outputSlot).position
  rcases ho : x.output with _ | ⟨i, t⟩ | ⟨s, t⟩ <;> rw [ho] at hx hr
  · rw [show out.position? = none from hr, Method.outputPosition?] at hposition
    split at hposition
    · cases hposition
    · cases hposition
    · exact ⟨‹_›, ‹_›⟩
  · cases hx
  · cases hx

namespace Caller

/-- After any session, an invocation on a database without errors reports no error of the
database, and it misses the output only of a method that declares none. -/
theorem database_errors_from_database (interface : Interface) (config : CallerConfig)
    (requests : List Request) (before : Database) {db : Database} (hdb : db.FaultFree)
    (method : String) {args : List Argument} (hargs : MapAll args) :
    let c := (before.run (serveAll Scripted.driver { interface, config } requests)).1
    let outcome := (db.run (c.invoke Scripted.driver method args)).1.1
    ∀ f ∈ failuresOf outcome, f.backend? = none ∧
      (f = .noOutParameter → ∃ m, interface.find? method = some m ∧
        m.metadata.outParameter = none ∧ m.metadata.returnValue = none) := by
  intro c outcome
  have hc : Faithful interface config c := faithful_session Scripted.driver requests before
  have houtcome : outcome = ((call Scripted.driver method args (c.plan method)).on db).1 := by
    rw [← hc.descriptor_fst]
    rfl
  rw [houtcome]
  rcases hp : c.plan method with e | x
  · exact failsOnly_fault ⟨rfl, fun h => by cases h⟩
  · obtain ⟨m, hm, hx⟩ := plan_eq_ok.mp hp
    rw [hc.interface, hc.config] at hx
    rw [hc.interface] at hm
    obtain ⟨out, hbuilt⟩ := Plan.built_of_descriptor hx
    rw [call]
    split
    · obtain ⟨o, ho, horigin⟩ := @Descriptor.failsOnly_invoke x args hbuilt.slot?_ne_zero db
      rw [ho]
      refine horigin.wrap fun f hf => ?_
      have hnone := hf.backend?_eq_none hdb hargs
      rw [x.wrapFault_eq_self hnone, and_self]
      refine ⟨hnone, ?_⟩
      rintro rfl
      exact ⟨m, hm, hbuilt.undeclared hf.slot?_eq_none⟩
    · exact failsOnly_fault ⟨rfl, fun h => by cases h⟩

def undeclared : Method := { Plan.middleOutput with metadata := {} }

def mappedArguments : List Argument :=
  [.value .null, .mapper (.plain fun row => .ok row.first), .value (.array [.null])]

theorem mapAll_mappedArguments : MapAll mappedArguments := by
  intro m hm row i
  simp only [mappedArguments, List.mem_cons, Argument.mapper.injEq, reduceCtorEq, false_or,
    List.not_mem_nil, or_false] at hm
  subst hm
  exact ⟨_, rfl⟩

/-- An untyped database whose call gives no rows. -/
theorem database_errors_from_database_undeclared :
    let interface : Interface := { name := "rows", methods := [undeclared] }
    let db : Database := { scripts := [("\x7bcall find(?,?)\x7d", {})], untyped := true }
    let c := (Database.run {} (serveAll Scripted.driver { interface, config := {} } [])).1
    let outcome := (db.run (c.invoke Scripted.driver "find" mappedArguments)).1.1
    db.FaultFree ∧ MapAll mappedArguments ∧ failuresOf outcome = [.noOutParameter] ∧
      ∀ f ∈ failuresOf outcome, f.backend? = none ∧
        (f = .noOutParameter → ∃ m, interface.find? "find" = some m ∧
          m.metadata.outParameter = none ∧ m.metadata.returnValue = none) := by
  have hdb : Database.FaultFree
      { scripts := [("\x7bcall find(?,?)\x7d", {})], untyped := true } :=
    ⟨List.forall_mem_singleton.mpr ⟨rfl, rfl, rfl⟩, rfl, rfl⟩
  exact ⟨hdb, mapAll_mappedArguments, rfl,
    database_errors_from_database _ _ [] {} hdb "find" mapAll_mappedArguments⟩

end Caller

end ProcCall
