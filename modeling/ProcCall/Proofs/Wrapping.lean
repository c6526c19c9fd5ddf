import ProcCall.Proofs.Call.Origins
import ProcCall.Proofs.Call.Release
import ProcCall.Proofs.Planned

/-! # Wrapping the first failure

A method that wraps its failures gives the call to the failure that came first, if that is one
of the database. All else in an error stays, and so does what was done on the database.
-/

namespace ProcCall

/-! ## Errors -/

namespace Descriptor

variable (x : Descriptor)

theorem first_wrapPrimary : (e : CallError) → (x.wrapPrimary e).first = x.wrapFault e.first
  | .fault _ => rfl
  | .suppressed p _ => first_wrapPrimary p

theorem wrapFault_ne_backend (f : Fault) (b : BackendError) : x.wrapFault f ≠ .backend b := by
  cases f <;> simp [wrapFault]

theorem wrapFault_of_ne_backend {f : Fault} (h : ∀ b, f ≠ .backend b) : x.wrapFault f = f := by
  cases f with
  | backend b => exact absurd rfl (h b)
  | _ => rfl

theorem backend?_wrapFault (f : Fault) : (x.wrapFault f).backend? = f.backend? := by
  cases f <;> rfl

theorem wrapPrimary_eq_self : (e : CallError) → (∀ b, e.first ≠ .backend b) → x.wrapPrimary e = e
  | .fault _, h => congrArg CallError.fault (x.wrapFault_of_ne_backend h)
  | .suppressed p others, h => congrArg (CallError.suppressed · others) (wrapPrimary_eq_self p h)

theorem wrapPrimary_withSuppressed (e : CallError) (more : List CallError) :
    x.wrapPrimary (e.withSuppressed more) = (x.wrapPrimary e).withSuppressed more := by
  cases more with
  | nil => rfl
  | cons l late => cases e <;> rfl

theorem backend?_wrapPrimary (e : CallError) : (x.wrapPrimary e).backend? = e.backend? := by
  rcases e with f | ⟨f | ⟨p, es⟩, others⟩
  · exact x.backend?_wrapFault f
  · exact x.backend?_wrapFault f
  · rfl

theorem primary_wrapPrimary_ne_backend (e : CallError) (b : BackendError) :
    (x.wrapPrimary e).primary ≠ .backend b := by
  rcases e with f | ⟨f | ⟨p, es⟩, others⟩
  · exact fun h => x.wrapFault_ne_backend f b (CallError.fault.inj h)
  · exact fun h => x.wrapFault_ne_backend f b (CallError.fault.inj h)
  · exact nofun

/-- Wrapping reaches the first failure of an error and nothing else. -/
structure WrapsFirst (e : CallError) : Prop where
  others : (x.wrap e).others = e.others
  backend? : (x.wrap e).backend? = e.backend?
  first : (x.wrap e).first = if x.wrapsFailures then x.wrapFault e.first else e.first
  again : x.wrapsFailures = true → ∀ y : Descriptor, y.wrap (x.wrap e) = x.wrap e
  withSuppressed : ∀ more, x.wrap (e.withSuppressed more) = (x.wrap e).withSuppressed more
  unchanged : (∀ b, e.first ≠ .backend b) → x.wrap e = e
  off : x.wrapsFailures = false → x.wrap e = e

theorem wrap_of_wraps (h : x.wrapsFailures = true) (e : CallError) : x.wrap e = x.wrapPrimary e :=
  if_pos h

theorem wrap_of_raw (h : x.wrapsFailures = false) (e : CallError) : x.wrap e = e := by
  rw [wrap, h]
  rfl

theorem wrap_eq_self {e : CallError} (h : ∀ b, e.first ≠ .backend b) : x.wrap e = e := by
  rw [wrap, x.wrapPrimary_eq_self e h, ite_self]

theorem wrapsFirst (e : CallError) : x.WrapsFirst e where
  others := x.others_wrap e
  backend? := by
    unfold wrap
    split
    · exact x.backend?_wrapPrimary e
    · rfl
  first := by
    unfold wrap
    split
    · exact x.first_wrapPrimary e
    · rfl
  again h y := by
    -- The first failure is none of the database any more, so there is nothing to wrap.
    refine y.wrap_eq_self fun b => ?_
    rw [x.wrap_of_wraps h, first_wrapPrimary]
    exact x.wrapFault_ne_backend e.first b
  withSuppressed more := by
    unfold wrap
    split
    · exact x.wrapPrimary_withSuppressed e more
    · rfl
  unchanged := x.wrap_eq_self
  off h := x.wrap_of_raw h e

end Descriptor

/-! ## Invocations -/

theorem Unwrapped.failsOnly {α : Type} {o : Except CallError α} (h : Unwrapped o) :
    FailsOnly (·.isWrapped = false) o := by
  cases o with
  | ok v => exact failsOnly_ok v
  | error e =>
    obtain ⟨f, rfl, hf⟩ := h e rfl
    exact failsOnly_fault hf

theorem ArrayLease.failsOnly_releaseAll (d : Driver) (leases : List ArrayLease) (db : Database) :
    FailsOnly (·.isWrapped = false)
      (CallError.ofFailures (db.run (ArrayLease.releaseAll d leases)).1) := by
  rw [ArrayLease.run_releaseAll]
  refine .ofFailures fun e he => ?_
  obtain ⟨b, _, rfl⟩ := List.mem_map.mp he
  exact ⟨.backend b, rfl, rfl⟩

namespace Descriptor

variable (d : Driver) (x : Descriptor) (args : List Argument)

def attempt : Action CallError Value := do
  let leases ← ArrayLease.create d x.arraySlots args
  (x.execute d args leases).thenRelease (ArrayLease.close d leases)

theorem invoke_on_attempt (db : Database) :
    (x.invoke d args).on db =
      (((x.attempt d args).on db).1.mapError x.wrap, ((x.attempt d args).on db).2) := rfl

theorem attempt_withWraps (wraps : Bool) :
    { x with wrapsFailures := wraps }.attempt d args = x.attempt d args := rfl

theorem failsOnly_attempt (db : Database) :
    FailsOnly (·.isWrapped = false) ((x.attempt d args).on db).1 := by
  have hmaking := ArrayLease.making_make d args x.arraySlots db
  rw [attempt, Action.on_bind, ArrayLease.create_on]
  rcases hm : db.run (ArrayLease.make d args x.arraySlots) with
    ⟨⟨leases, _ | ⟨i, e⟩⟩, db₁⟩ <;> rw [hm] at hmaking
  · dsimp only
    rw [Action.on_thenRelease, ArrayLease.close_run]
    refine FailsOnly.mergeRelease ?_ (ArrayLease.failsOnly_releaseAll d leases _)
    exact x.execute_induction (fun _ h => h.failsOnly)
      (fun _ _ h hr => h.mergeRelease hr.failsOnly) db₁
  · obtain ⟨f, rfl, hf⟩ := hmaking.fault _ _ rfl
    exact (failsOnly_fault hf).withSuppressed (ArrayLease.failsOnly_releaseAll d leases db₁)

variable {d x args} {db : Database} {e : CallError}

/-- What a caller sees of a failed invocation: if failures are wrapped, the first one is no plain
failure of the database, and otherwise none names the call. -/
def Shows (wraps : Bool) (e : CallError) : Prop :=
  if wraps then ∀ b, e.primary ≠ .backend b else ∀ f ∈ e.flatten, f.isWrapped = false

theorem shows_fault {f : Fault} (wraps : Bool) (hb : ∀ b, f ≠ .backend b)
    (hw : f.isWrapped = false) : Shows wraps (.fault f) := by
  cases wraps with
  | true => exact fun b h => hb b (CallError.fault.inj h)
  | false => exact List.forall_mem_singleton.mpr hw

theorem shows_invoke (h : ((x.invoke d args).on db).1 = .error e) : Shows x.wrapsFailures e := by
  rw [invoke_on_attempt] at h
  obtain ⟨e₀, ho, rfl⟩ := mapError_eq_error.mp h
  have hfails := x.failsOnly_attempt d args db
  rw [ho] at hfails
  unfold Shows
  split
  · rename_i hw
    rw [x.wrap_of_wraps hw]
    exact x.primary_wrapPrimary_ne_backend e₀
  · rename_i hw
    rw [x.wrap_of_raw (Bool.eq_false_iff.mpr hw)]
    exact hfails

end Descriptor

/-! ## Plans -/

def Method.withRaw (m : Method) (raw : Bool) : Method := { m with rawBackendErrors := raw }

namespace Plan

variable (config : CallerConfig) (m : Method) (raw : Bool)

theorem namesFrom_withRaw (i : Nat) (ps : List Parameter) :
    namesFrom config (m.withRaw raw) i ps = namesFrom config m i ps := by
  induction ps generalizing i with
  | nil => rfl
  | cons p ps ih =>
    rw [namesFrom, namesFrom, ih]
    rfl

theorem binder_withRaw (out : Option Nat) :
    binder config (m.withRaw raw) out = binder config m out := by
  simp only [binder, namesFrom_withRaw]
  rfl

theorem arraySlots_withRaw : arraySlots config (m.withRaw raw) = arraySlots config m := by
  refine arraySlotsOf_congr (fun i p => ?_) m.valueParameters
  rfl

theorem descriptor_withRaw (defaults : InterfaceMetadata) :
    descriptor config (m.withRaw raw) defaults =
      (fun x => { x with wrapsFailures := !raw }) <$> descriptor config m defaults := by
  simp only [descriptor, map_bind, binder_withRaw, arraySlots_withRaw]
  rfl

end Plan

namespace Caller

variable {d : Driver} {method : String} {args : List Argument} {db : Database}

theorem shows_call {m : Method} {config : CallerConfig} {defaults : InterfaceMetadata}
    {e : CallError}
    (h : ((call d method args (Plan.descriptor config m defaults)).on db).1 = .error e) :
    Descriptor.Shows (!m.rawBackendErrors) e := by
  rcases hp : Plan.descriptor config m defaults with ce | x <;> rw [hp] at h
  · cases h
    exact Descriptor.shows_fault _ (by simp) rfl
  · obtain ⟨out, hbuilt⟩ := Plan.built_of_descriptor hp
    rw [call] at h
    split at h
    · rw [← hbuilt.wrapsFailures]
      exact Descriptor.shows_invoke h
    · cases h
      exact Descriptor.shows_fault _ (by simp) rfl

variable (d method args db)

/-- A call that wraps its failures is the one that does not, with the first failure wrapped. -/
theorem call_withWraps (x : Descriptor) :
    let plain := (call d method args (.ok { x with wrapsFailures := false })).on db
    (call d method args (.ok { x with wrapsFailures := true })).on db =
      (plain.1.mapError { x with wrapsFailures := true }.wrap, plain.2) := by
  intro plain
  by_cases hn : args.length = x.parameterCount
  · simp only [plain, call, if_pos hn, Descriptor.invoke_on_attempt, Descriptor.attempt_withWraps]
    rcases ((x.attempt d args).on db).1 with e | v <;> rfl
  · simp only [plain, call, if_neg hn]
    rfl

/-- Wrapping reaches the first failure of an error and nothing else. So a method that wraps its
failures shows none of the database first, one that does not shows none with its call, and two
declarations that differ in this do the same on any driver after any session, the error of one
being that of the other with its first failure wrapped. -/
theorem wraps_first_failure (config : CallerConfig) (method : String) (args : List Argument)
    (db : Database) :
    (∀ (x : Descriptor) (e : CallError), x.WrapsFirst e) ∧
    (∀ (d : Driver) (interface : Interface) (requests : List Request) (before : Database)
      (m : Method), interface.find? method = some m →
      let c := (before.run (serveAll d { interface, config } requests)).1
      ∀ e, (db.run (c.invoke d method args)).1.1 = .error e →
        Descriptor.Shows (!m.rawBackendErrors) e) ∧
    ∀ (d : Driver) (wrapping raw : Interface) (requests requests' : List Request)
      (before before' : Database) (m : Method), wrapping.metadata = raw.metadata →
      wrapping.find? method = some (m.withRaw false) → raw.find? method = some (m.withRaw true) →
      let c := (before.run (serveAll d { interface := wrapping, config } requests)).1
      let c' := (before'.run (serveAll d { interface := raw, config } requests')).1
      let wrapped := db.run (c.invoke d method args)
      let plain := db.run (c'.invoke d method args)
      wrapped.2 = plain.2 ∧
      (∀ x, Plan.descriptor config (m.withRaw false) wrapping.metadata = .ok x →
        wrapped.1.1 = plain.1.1.mapError x.wrap) ∧
      ∀ ce, Plan.descriptor config (m.withRaw false) wrapping.metadata = .error ce →
        wrapped.1.1 = plain.1.1 := by
  refine ⟨fun x e => x.wrapsFirst e, ?_, ?_⟩
  · intro d interface requests before m hm c e he
    have hc : Faithful interface config c := faithful_session d requests before
    rw [Caller.run_invoke, hc.descriptor_of_find? hm] at he
    exact shows_call he
  · intro d wrapping raw requests requests' before before' m hmeta hm hm' c c' wrapped plain
    have hc : Faithful wrapping config c := faithful_session d requests before
    have hc' : Faithful raw config c' := faithful_session d requests' before'
    simp only [wrapped, plain, Caller.run_invoke, hc.descriptor_of_find? hm,
      hc'.descriptor_of_find? hm', hmeta, Plan.descriptor_withRaw]
    rcases Plan.descriptor config m raw.metadata with ce | x
    · exact ⟨rfl, fun _ h => (nomatch h), fun _ _ => rfl⟩
    · obtain ⟨hfst, hsnd⟩ := Prod.mk.inj (call_withWraps d method args db x)
      refine ⟨hsnd, ?_, fun _ h => nomatch h⟩
      rintro _ ⟨⟩
      exact hfst

def saving : Method where
  name := "save"

def savingCall : Descriptor where
  method := "save"
  procedureName := "save"
  callString := "\x7bcall save()\x7d"
  parameterCount := 0
  wrapsFailures := true
  inputs := .noParameters
  output := .none
  extractor := .void .acceptAndIgnore
  arraySlots := []

def unsaved : Database where
  scripts := [(savingCall.callString, {
    error := some ⟨.query, "no table"⟩
    closeError := some ⟨.connection, "gone"⟩ })]

def savingError : CallError :=
  .suppressed (.backend ⟨.query, "no table"⟩) [.backend ⟨.connection, "gone"⟩]

theorem wraps_first_failure_saving :
    let wrapping : Interface := { name := "saves", methods := [saving.withRaw false] }
    let raw : Interface := { name := "saves", methods := [saving.withRaw true] }
    let c := (Database.run {} (serveAll Scripted.driver
      { interface := wrapping, config := {} } [])).1
    let c' := (Database.run {} (serveAll Scripted.driver { interface := raw, config := {} } [])).1
    let wrapped := unsaved.run (c.invoke Scripted.driver "save" [])
    let plain := unsaved.run (c'.invoke Scripted.driver "save" [])
    savingCall.WrapsFirst savingError ∧ Descriptor.Shows true (savingCall.wrap savingError) ∧
      Descriptor.Shows false savingError ∧ wrapped.2 = plain.2 ∧
      wrapped.1.1 = plain.1.1.mapError savingCall.wrap := by
  obtain ⟨hwraps, hshows, hsame⟩ := wraps_first_failure {} "save" [] unsaved
  obtain ⟨hdb, hplanned, _⟩ := hsame Scripted.driver
    { name := "saves", methods := [saving.withRaw false] }
    { name := "saves", methods := [saving.withRaw true] } [] [] {} {} saving rfl rfl rfl
  refine ⟨hwraps savingCall savingError, ?_, ?_, hdb, hplanned savingCall rfl⟩
  · exact hshows Scripted.driver { name := "saves", methods := [saving.withRaw false] } [] {}
      (saving.withRaw false) rfl _ rfl
  · exact hshows Scripted.driver { name := "saves", methods := [saving.withRaw true] } [] {}
      (saving.withRaw true) rfl _ rfl

end Caller

end ProcCall
