import ProcCall.Proofs.Call.Origins
import ProcCall.Proofs.Call.Phases
import ProcCall.Proofs.Plan.Styles
import ProcCall.Proofs.Transcript

/-! # Failures before execution

A call that fails before it is executed leaves no more than what it had done by then. A
failure of the plan or of the number of arguments leaves nothing, one of the arrays or of
the preparation leaves no record, and a refused argument leaves the record of those before it.
-/

namespace ProcCall

open Parameter

/-- Failures that are found before anything is asked of the database. -/
def Fault.isEarly : Fault → Bool
  | config _ | argumentCount .. => true
  | _ => false

theorem Fault.Origin.isEarly_eq_false {x : Descriptor} {args : List Argument} {db : Database}
    {f : Fault} (h : f.Origin x args db) : f.isEarly = false := by
  cases h with
  | result h => cases h <;> rfl
  | _ => rfl

theorem Descriptor.isEarly_wrapFault (x : Descriptor) (f : Fault) :
    (x.wrapFault f).isEarly = f.isEarly := by
  cases f <;> rfl

/-- The record of a call whose ith argument was refused: it says what was bound before. -/
structure StoppedAt (config : CallerConfig) (m : Method) (x : Descriptor) (args : List Argument)
    (i : Nat) (r : CallRecord) : Prop where
  call : r.call = x.callString
  bindings : List.Forall₂ (fun ip e => x.inputs.slot? ip.1 = some e.1 ∧
      ∃ v, args[ip.1]? = some (.value v) ∧ Recorded config x.arraySlots ip.1 ip.2 v e.2)
    (m.valueParameters.filter (·.1 < i)) r.bindings
  registered : r.registered = []
  executed : r.executed = false

/-- What an invocation leaves that fails before the execution. -/
structure StopsEarly (config : CallerConfig) (m : Method) (x : Descriptor) (args : List Argument)
    (db : Database) (outcome : Except CallError Value) (after : Database) : Prop where
  refused : (∃ e, ((ArrayLease.create Scripted.driver x.arraySlots args).on db).1 = .error e) ↔
    ArrayLease.Refused args x.arraySlots db
  creation : ∀ e db₁,
    (ArrayLease.create Scripted.driver x.arraySlots args).on db = (.error e, db₁) →
      outcome = .error (x.wrap e) ∧ after = db₁ ∧ after.calls = db.calls
  prepare : ∀ leases db₁ e db₂,
    (ArrayLease.create Scripted.driver x.arraySlots args).on db = (.ok leases, db₁) →
      (Scripted.driver.prepare x.callString).on db₁ = (.error e, db₂) → after.calls = db.calls
  bound : ∀ leases stmt db₂, x.Prepared args db leases stmt db₂ →
    ((∃ e, ((x.inputs.bind Scripted.driver stmt args leases).on db₂).1 = .error e) ↔
      ∃ i p f, (i, p) ∈ m.valueParameters ∧ args[i]? = some (.mapper f))
  binding : ∀ leases stmt db₂ e db₃, x.Prepared args db leases stmt db₂ →
    (x.inputs.bind Scripted.driver stmt args leases).on db₂ = (.error e, db₃) →
      ∃ i p f r, (i, p) ∈ m.valueParameters ∧ args[i]? = some (.mapper f) ∧
        e = .fault (.argumentShape i "value") ∧ after.calls = db.calls ++ [r] ∧
        StoppedAt config m x args i r

namespace Plan

variable {config : CallerConfig} {m : Method} {defaults : InterfaceMetadata}
  {out : OutputSlot} {x : Descriptor} {args : List Argument} {db db' : Database}
  {leases : List ArrayLease}

theorem Built.stoppedAt (h : Built config m defaults out x)
    (hn : args.length = m.parameters.length)
    (hmaking : ArrayLease.Making Scripted.driver args x.arraySlots db leases none db')
    {e : CallError} (he : (x.inputs.entries args leases).2 = some e) (s : Script) :
    ∃ i p f, (i, p) ∈ m.valueParameters ∧ args[i]? = some (.mapper f) ∧
      e = .fault (.argumentShape i "value") ∧
      StoppedAt config m x args i (x.record args leases s) := by
  have hrecord : x.record args leases s =
      { call := x.callString, bindings := (x.inputs.entries args leases).1, closed := true } := by
    rw [Descriptor.record, Descriptor.openRecord, he]
  rw [hrecord]
  rw [h.entries hmaking] at he ⊢
  obtain ⟨i, a, ha, hentry, htake⟩ := Binder.exists_refused he
  rw [Nat.zero_add] at hentry
  obtain ⟨hslot, _, ⟨f, rfl⟩, rfl⟩ := (Binder.entry_eq_error (h.slot?_ne_zero i)).mp hentry
  rw [h.slot?_isSome] at hslot
  obtain ⟨p, hp, hb⟩ := (Option.any_eq_true _ _).mp hslot
  refine ⟨i, p, f, mem_numbered.mpr ⟨hp, hb⟩, ha, rfl, rfl, ?_, rfl, rfl⟩
  have hbefore := h.recorded_take hn hmaking (congrArg Prod.snd htake)
  rw [htake, numbered_take] at hbefore
  exact hbefore

theorem Built.bound (h : Built config m defaults out x) (hn : args.length = m.parameters.length)
    (hmaking : ArrayLease.Making Scripted.driver args x.arraySlots db leases none db')
    (he : (x.inputs.entries args leases).2 = none) {i : Nat} {p : Parameter}
    (hp : (i, p) ∈ m.valueParameters) : ∃ v, args[i]? = some (.value v) := by
  rw [h.entries hmaking, ← args.take_length] at he
  have hentries := h.recorded_take hn hmaking he
  rw [hn, List.take_length] at hentries
  have hvalues := hentries.imp (S := fun ip _ => (∃ v, args[ip.1]? = some (.value v)) ∧ True)
    fun ip e he => ⟨he.2.imp fun v hv => hv.1, trivial⟩
  exact ((List.forall₂_and_left _ _).mp hvalues).1 (i, p) hp

/-- Binding fails exactly if there is a row mapper where a value belongs. -/
theorem Built.bind_error_iff (h : Built config m defaults out x)
    (hn : args.length = m.parameters.length) {stmt : Statement} {db₂ : Database}
    (hprepared : x.Prepared args db leases stmt db₂) :
    (∃ e, ((x.inputs.bind Scripted.driver stmt args leases).on db₂).1 = .error e) ↔
      ∃ i p f, (i, p) ∈ m.valueParameters ∧ args[i]? = some (.mapper f) := by
  obtain ⟨_, hmaking⟩ := hprepared.making
  rw [Binder.bind_on]
  simp only [Binder.outcome_eq_error]
  constructor
  · rintro ⟨e, he⟩
    obtain ⟨i, p, f, hp, hf, _⟩ := h.stoppedAt hn hmaking he {}
    exact ⟨i, p, f, hp, hf⟩
  · rintro ⟨i, p, f, hp, hf⟩
    rcases he : (x.inputs.entries args leases).2 with _ | e
    · obtain ⟨v, hv⟩ := h.bound hn hmaking he hp
      cases hf.symm.trans hv
    · exact ⟨e, rfl⟩

theorem Built.stopsEarly (h : Built config m defaults out x)
    (hn : args.length = m.parameters.length) (db : Database) :
    StopsEarly config m x args db ((x.invoke Scripted.driver args).on db).1
      ((x.invoke Scripted.driver args).on db).2 := by
  have hcalls := (x.settles_invoke args db).calls
  refine ⟨ArrayLease.exists_create_error, ?_, ?_, fun leases stmt db₂ => h.bind_error_iff hn, ?_⟩
  · intro e db₁ he
    have hsettles := ArrayLease.settles_create_error he
    rw [Descriptor.invoke_on_create_error he]
    exact ⟨rfl, rfl, hsettles.calls.trans (List.append_nil _)⟩
  · intro leases db₁ e db₂ hcreate hprepare
    rw [hcalls, Descriptor.invocationRecord?_of_prepare_error hcreate hprepare]
    exact List.append_nil _
  · intro leases stmt db₂ e db₃ hprepared hbind
    obtain ⟨_, hmaking⟩ := hprepared.making
    rw [Binder.bind_on] at hbind
    have he := Binder.outcome_eq_error.mp (congrArg Prod.fst hbind)
    obtain ⟨i, p, f, hp, hf, hshape, hstopped⟩ := h.stoppedAt hn hmaking he _
    rw [hprepared.invocationRecord?] at hcalls
    exact ⟨i, p, f, _, hp, hf, hshape, hcalls, hstopped⟩

end Plan

namespace Caller

theorem callRecord?_eq_some {args : List Argument} {db : Database}
    {found : Except ConfigError Descriptor} {r : CallRecord} :
    callRecord? args db found = some r ↔ ∃ x, found = .ok x ∧ args.length = x.parameterCount ∧
      x.invocationRecord? args db = some r := by
  cases found with
  | error e => simp [callRecord?]
  | ok x => by_cases hn : args.length = x.parameterCount <;> simp [callRecord?, hn]

variable {interface : Interface} {config : CallerConfig} {c : Caller}

theorem Faithful.eq_of_isEarly (h : Faithful interface config c) {method : String}
    {args : List Argument} {db : Database} {f : Fault}
    (hf : f ∈ failuresOf (db.run (c.invoke Scripted.driver method args)).1.1)
    (hearly : f.isEarly = true) : (db.run (c.invoke Scripted.driver method args)).2 = db := by
  rw [Caller.run_invoke, h.descriptor_fst] at hf ⊢
  rcases hp : c.plan method with e | x <;> rw [hp] at hf
  · rfl
  · dsimp only [call] at hf ⊢
    split at hf
    · obtain ⟨m, _, hx⟩ := plan_eq_ok.mp hp
      obtain ⟨out, hbuilt⟩ := Plan.built_of_descriptor hx
      obtain ⟨o, ho, horigin⟩ := @Descriptor.failsOnly_invoke x args hbuilt.slot?_ne_zero db
      have hlate : FailsOnly (·.isEarly = false) (o.mapError x.wrap) := by
        refine horigin.wrap fun g hg => ?_
        rw [x.isEarly_wrapFault]
        exact ⟨hg.isEarly_eq_false, hg.isEarly_eq_false⟩
      rw [ho] at hf
      cases hearly.symm.trans (hlate f hf)
    · rw [if_neg ‹_›]
      rfl

theorem Faithful.calls_of_invoke (h : Faithful interface config c) (method : String)
    (args : List Argument) (db : Database) :
    (db.run (c.invoke Scripted.driver method args)).2.calls =
      db.calls ++ (callRecord? args db (c.plan method)).toList := by
  rw [Caller.run_invoke, h.descriptor_fst]
  exact (settles_call method args db (c.plan method)).calls

theorem Faithful.executed_iff (h : Faithful interface config c) {method : String}
    {args : List Argument} {db : Database} :
    (∃ r ∈ callRecord? args db (c.plan method), r.executed = true) ↔
      ∃ m x, interface.find? method = some m ∧
        Plan.descriptor config m interface.metadata = .ok x ∧
        args.length = m.parameters.length ∧ x.Launched args db := by
  simp only [Option.mem_def, callRecord?_eq_some, Descriptor.launched_iff, plan_eq_ok, h.interface,
    h.config]
  constructor
  · rintro ⟨r, ⟨x, ⟨m, hm, hx⟩, hn, hr⟩, he⟩
    obtain ⟨out, hbuilt⟩ := Plan.built_of_descriptor hx
    exact ⟨m, x, hm, hx, hn.trans hbuilt.parameterCount, r, hr, he⟩
  · rintro ⟨m, x, hm, hx, hn, r, hr, he⟩
    obtain ⟨out, hbuilt⟩ := Plan.built_of_descriptor hx
    exact ⟨r, ⟨x, ⟨m, hm, hx⟩, hn.trans hbuilt.parameterCount.symm, hr⟩, he⟩

/-- After any session, a failure of the plan or of the number of arguments leaves the database
as it was, an invocation stops at the phase that fails, and the one record that it may add is
of an executed call exactly if all phases before the execution have succeeded. -/
theorem early_failures (interface : Interface) (config : CallerConfig) (requests : List Request)
    (before db : Database) (method : String) (args : List Argument) :
    let c := (before.run (serveAll Scripted.driver { interface, config } requests)).1
    let outcome := (db.run (c.invoke Scripted.driver method args)).1.1
    let after := (db.run (c.invoke Scripted.driver method args)).2
    (∀ f ∈ failuresOf outcome, f.isEarly = true → after = db) ∧
    (∀ m x, interface.find? method = some m →
      Plan.descriptor config m interface.metadata = .ok x → args.length = m.parameters.length →
        StopsEarly config m x args db outcome after) ∧
    (∃ new : Option CallRecord, after.calls = db.calls ++ new.toList ∧
      ((∃ r ∈ new, r.executed = true) ↔ ∃ m x, interface.find? method = some m ∧
        Plan.descriptor config m interface.metadata = .ok x ∧
        args.length = m.parameters.length ∧ x.Launched args db)) := by
  intro c outcome after
  have hc : Faithful interface config c := faithful_session Scripted.driver requests before
  refine ⟨fun f hf hearly => hc.eq_of_isEarly hf hearly, ?_,
    _, hc.calls_of_invoke method args db, hc.executed_iff⟩
  intro m x hm hx hn
  obtain ⟨out, hbuilt⟩ := Plan.built_of_descriptor hx
  have hrun := hc.run_invoke Scripted.driver hm hx hn db
  simp only [outcome, after, hrun]
  exact hbuilt.stopsEarly hn db

def pairing : Method where
  name := "pair"
  parameters := [.unnamed (.scalar .text), .unnamed (.scalar .text)]

def pairCall : Descriptor where
  method := "pair"
  procedureName := "pair"
  callString := "\x7bcall pair(?,?)\x7d"
  parameterCount := 2
  wrapsFailures := true
  inputs := .byIndex [some 1, some 2]
  output := .none
  extractor := .void .acceptAndIgnore
  arraySlots := []

def pairRecord : CallRecord where
  call := pairCall.callString
  bindings := [(.index 1, .value .null)]
  closed := true

/-- The second argument is a row mapper. -/
theorem early_failures_pair :
    let c := (Database.run {} (serveAll Scripted.driver
      { interface := { name := "pairs", methods := [pairing] }, config := {} } [])).1
    let args := [.value .null, .mapper (.plain fun row => .ok row.first)]
    let after := (Database.run {} (c.invoke Scripted.driver "pair" args)).2
    after.calls = [pairRecord] ∧
      ∃ i p f r, (i, p) ∈ pairing.valueParameters ∧ args[i]? = some (.mapper f) ∧
        CallError.fault (.argumentShape 1 "value") = .fault (.argumentShape i "value") ∧
        after.calls = [] ++ [r] ∧ StoppedAt {} pairing pairCall args i r :=
  ⟨rfl, ((early_failures { name := "pairs", methods := [pairing] } {} [] {} {} "pair" _).2.1
    pairing pairCall rfl rfl rfl).binding [] _ _ _ _ ⟨_, rfl, rfl⟩ rfl⟩

end Caller

end ProcCall
