import ProcCall.Proofs.Call.Release
import ProcCall.Proofs.EarlyFailures

/-! # Failures beside the first

An error lists the failures that came after the first one by one, with one exception. When a
call fails whose arrays were all made, and then two or more of them cannot be released, the
failures of these releases are listed as a single error.
-/

namespace ProcCall

open Journal

/-! ## Errors that list failures one by one -/

namespace CallError

/-- Neither the first failure nor one of those beside it is put together from others. -/
def Flat (e : CallError) : Prop := e.failures = e.flatten.map CallError.fault

theorem Flat.withSuppressed {e : CallError} (h : e.Flat) (late : List Fault) :
    (e.withSuppressed (late.map CallError.fault)).Flat := by
  rw [Flat, failures_withSuppressed, flatten_withSuppressed, flattenAll_map_fault, h,
    List.map_append]

end CallError

def FlatOutcome (o : Except CallError Value) : Prop := ∀ e, o = .error e → e.Flat

theorem OneFault.flatOutcome {o : Except CallError Value} (h : OneFault o) : FlatOutcome o := by
  intro e he
  obtain ⟨f, rfl⟩ := h e he
  rfl

theorem FlatOutcome.mergeRelease {o : Except CallError Value} {r : Except CallError Unit}
    (ho : FlatOutcome o) (hr : OneFault r) : FlatOutcome (mergeRelease o r) := by
  rcases o with e | v <;> rcases r with late | ⟨⟩
  · obtain ⟨f, rfl⟩ := hr late rfl
    rintro _ ⟨⟩
    exact (ho e rfl).withSuppressed [f]
  · exact ho
  · obtain ⟨f, rfl⟩ := hr late rfl
    rintro _ ⟨⟩
    rfl
  · exact nofun

variable (d : Driver)

/-- What is released between the preparation and the closing of a call is one array at most,
so the failures of a call that is executed are listed one by one. -/
theorem Descriptor.flat_execute (x : Descriptor) (args : List Argument)
    (leases : List ArrayLease) (db : Database) :
    FlatOutcome ((x.execute d args leases).on db).1 :=
  x.execute_induction (fun _ h => h.oneFault.flatOutcome)
    (fun _ _ h hr => h.mergeRelease hr.oneFault) db

/-! ## The releases in a journal -/

def CallStep.isRelease : CallStep → Bool
  | release _ => true
  | _ => false

namespace Journal

def failuresOn (kind : CallStep → Bool) (j : Journal) : List Fault :=
  failures (j.filter fun s => kind s.1)

def released : Journal → List Fault := failuresOn CallStep.isRelease

def worked : Journal → List Fault := failuresOn fun s => !s.isRelease

def Refused (j : Journal) : Prop := ∃ i f, (CallStep.make i, some f) ∈ j

/-- All arrays were made, but the call failed and then two or more releases of them. -/
def Nests (j : Journal) : Prop := ¬ j.Refused ∧ j.worked ≠ [] ∧ 2 ≤ j.released.length

variable {kind : CallStep → Bool}

theorem failuresOn_append (j k : Journal) :
    failuresOn kind (j ++ k) = failuresOn kind j ++ failuresOn kind k := by
  rw [failuresOn, List.filter_append, failures_append, failuresOn, failuresOn]

theorem failuresOn_of_all {j : Journal} (h : ∀ s ∈ j, kind s.1 = true) :
    failuresOn kind j = j.failures := by
  rw [failuresOn, List.filter_eq_self.mpr h]

theorem failuresOn_of_none {j : Journal} (h : ∀ s ∈ j, kind s.1 = false) :
    failuresOn kind j = [] := by
  rw [failuresOn, List.filter_eq_nil_iff.mpr fun s hs => by simp [h s hs]]
  rfl

theorem failuresOn_done (steps : List CallStep) : failuresOn kind (done steps) = [] := by
  rw [failuresOn, done, List.filter_map]
  exact failures_done _

end Journal

def CallStep.isLease : CallStep → Bool
  | make _ | release _ => true
  | _ => false

theorem CallStep.isRelease_eq_false {s : CallStep} (h : s.isLease = false) :
    s.isRelease = false := by
  cases s with
  | release i => cases h
  | _ => rfl

theorem Worked.not_isLease {j : Journal} (h : Worked j) : ∀ s ∈ j, s.1.isLease = false := by
  cases h with
  | @stopped before step after split f =>
    have hall : ∀ s ∈ before ++ step :: after, s.isLease = false := by
      rw [← split]
      decide
    intro s hs
    rcases List.mem_append.mp hs with hs | hs
    · obtain ⟨k, hk, rfl⟩ := List.mem_map.mp hs
      exact hall k (List.mem_append_left _ hk)
    · obtain rfl := List.mem_singleton.mp hs
      exact hall step (by simp)
  | read f _ => simp [done, plain, CallStep.isLease]

theorem Performed.not_isLease {j : Journal} (h : Performed j) : ∀ s ∈ j, s.1.isLease = false := by
  cases h with
  | unprepared f => exact List.forall_mem_singleton.mpr rfl
  | closed h e =>
    refine List.forall_mem_cons.mpr ⟨rfl, List.forall_mem_append.mpr ⟨h.not_isLease, ?_⟩⟩
    exact List.forall_mem_singleton.mpr rfl

/-! ## What an error lists -/

theorem lists_mergeRelease {o : Except CallError Value} (ho : FlatOutcome o)
    (late : List BackendError) {e : CallError}
    (h : mergeRelease o (CallError.ofFailures (late.map CallError.backend)) = .error e) :
    ∃ first rest, failuresOf o ++ late.map Fault.backend = first :: rest ∧
      e.primary = .fault first ∧
      (failuresOf o = [] ∨ late.length ≤ 1 → e.others = rest.map CallError.fault) ∧
      ∀ r s more, failuresOf o ≠ [] → late = r :: s :: more →
        e.others = (failuresOf o).tail.map CallError.fault ++
          [.suppressed (.backend r) ((s :: more).map CallError.backend)] := by
  rcases o with e₁ | v
  · have hflat := ho e₁ rfl
    obtain ⟨rest, hrest⟩ := e₁.flatten_eq_first_cons
    rw [CallError.Flat, hrest, CallError.failures] at hflat
    obtain ⟨hprimary, hothers⟩ := List.cons.inj hflat
    rw [failuresOf, hrest]
    refine ⟨e₁.first, rest ++ late.map Fault.backend, rfl, ?_⟩
    rcases late with _ | ⟨r, _ | ⟨s, more⟩⟩ <;> cases h
    · refine ⟨hprimary, fun _ => ?_, by simp⟩
      rw [hothers, List.map_nil, List.append_nil]
    · refine ⟨(CallError.primary_withSuppressed ..).trans hprimary, fun _ => ?_, by simp⟩
      rw [CallError.others_withSuppressed, hothers, List.map_append]
      rfl
    · refine ⟨(CallError.primary_withSuppressed ..).trans hprimary, ?_, ?_⟩
      · rintro (hnil | hone)
        · cases hnil
        · simp at hone
      · rintro r s more - ⟨⟩
        rw [CallError.others_withSuppressed, hothers]
        rfl
  · rcases late with _ | ⟨r, more⟩ <;> cases h
    refine ⟨.backend r, more.map Fault.backend, rfl, CallError.primary_withSuppressed ..,
      fun _ => ?_, fun _ _ _ hne => absurd rfl hne⟩
    rw [CallError.others_withSuppressed, List.map_map]
    rfl

/-- What the error of an invocation says of the failures in its journal. -/
structure Lists (x : Descriptor) (kept : Journal) (e : CallError) : Prop where
  primary : ∃ first late, kept.failures = first :: late ∧ e.primary = x.wrap (.fault first)
  flat : ¬ kept.Nests → e.others = kept.failures.tail.map CallError.fault
  nested : kept.Nests → ∃ r s more, kept.released = r :: s :: more ∧
    e.others = kept.worked.tail.map CallError.fault ++
      [.suppressed (.fault r) ((s :: more).map CallError.fault)]
  length : e.others.length = kept.failures.tail.length ↔ ¬ kept.Nests

namespace Descriptor

variable {x : Descriptor} {kept : Journal} {late : List BackendError} {e : CallError}

/-- When an array was not made, the failures of the releases are beside the refusal. -/
theorem lists_of_refused {f : Fault} (hrefused : kept.Refused)
    (hkept : kept.failures = f :: late.map Fault.backend) :
    Lists x kept (x.wrap ((CallError.fault f).withSuppressed (late.map CallError.backend))) := by
  have hn : ¬ kept.Nests := fun h => h.1 hrefused
  have hothers : ((CallError.fault f).withSuppressed (late.map CallError.backend)).others =
      kept.failures.tail.map CallError.fault := by
    rw [CallError.others_withSuppressed, hkept, List.tail_cons, List.map_map]
    rfl
  refine ⟨⟨f, _, hkept, ?_⟩, fun _ => ?_, fun h => absurd h hn, ?_⟩
  · rw [x.primary_wrap, CallError.primary_withSuppressed]
    rfl
  · rw [x.others_wrap, hothers]
  · rw [x.others_wrap, hothers, List.length_map]
    exact iff_of_true rfl hn

/-- When all arrays were made, they are released in a pass that follows the work. -/
theorem lists_of_made {o : Except CallError Value} (hrefused : ¬ kept.Refused)
    (hworked : kept.worked = failuresOf o) (hreleased : kept.released = late.map Fault.backend)
    (hkept : kept.failures = kept.worked ++ kept.released) (ho : FlatOutcome o)
    (h : mergeRelease o (CallError.ofFailures (late.map CallError.backend)) = .error e) :
    Lists x kept (x.wrap e) := by
  obtain ⟨first, rest, hsplit, hprimary, hflat, hnested⟩ := lists_mergeRelease ho late h
  have hfailures : kept.failures = first :: rest := by rw [hkept, hworked, hreleased, hsplit]
  have hn : ¬ kept.Nests ↔ failuresOf o = [] ∨ late.length ≤ 1 := by
    rw [Nests, hworked, hreleased, List.length_map]
    grind
  have hlist : ¬ kept.Nests → e.others = kept.failures.tail.map CallError.fault := by
    intro h
    rw [hflat (hn.mp h), hfailures, List.tail_cons]
  have hpair : kept.Nests → ∃ r s more, kept.released = r :: s :: more ∧
      e.others = kept.worked.tail.map CallError.fault ++
        [.suppressed (.fault r) ((s :: more).map CallError.fault)] := by
    rintro ⟨_, hne, htwo⟩
    rw [hworked] at hne
    rw [hreleased] at htwo ⊢
    rcases late with _ | ⟨r, _ | ⟨s, more⟩⟩
    · simp at htwo
    · simp at htwo
    · refine ⟨_, _, _, rfl, ?_⟩
      rw [hnested r s more hne rfl, hworked, ← List.map_cons, List.map_map]
      rfl
  refine ⟨⟨first, rest, hfailures, ?_⟩, ?_, ?_, ?_⟩
  · rw [x.primary_wrap, hprimary]
  · rwa [x.others_wrap]
  · rwa [x.others_wrap]
  · rw [x.others_wrap]
    refine ⟨fun hlength hnests => ?_, fun h => by rw [hlist h, List.length_map]⟩
    obtain ⟨r, s, more, hreleased', hothers⟩ := hpair hnests
    have hpos := List.length_pos_of_ne_nil hnests.2.1
    rw [hothers, hkept, hreleased'] at hlength
    simp only [List.length_append, List.length_map, List.length_tail, List.length_cons,
      List.length_nil] at hlength
    omega

theorem kept_made (made : List CallStep) {work : Journal}
    (hwork : ∀ s ∈ work, s.1.isLease = false) (passed : List (Nat × Option BackendError)) :
    let kept := done made ++ work ++ plain (passed.map fun (i, e) => (.release i, e))
    ¬ kept.Refused ∧ kept.worked = work.failures ∧
      kept.released = (passed.filterMap Prod.snd).map Fault.backend ∧
      kept.failures = kept.worked ++ kept.released := by
  intro kept
  have hwork' : ∀ s ∈ work, s.1.isRelease = false := by
    intro s hs
    exact CallStep.isRelease_eq_false (hwork s hs)
  have hpass : ∀ s ∈ plain (passed.map fun (i, e) => (.release i, e)), s.1.isRelease = true := by
    intro s hs
    obtain ⟨_, hr, rfl⟩ := List.mem_map.mp hs
    obtain ⟨_, _, rfl⟩ := List.mem_map.mp hr
    rfl
  have hworked : kept.worked = work.failures := by
    rw [worked, failuresOn_append, failuresOn_append, failuresOn_done, List.nil_append,
      failuresOn_of_all fun s hs => by rw [hwork' s hs]; rfl,
      failuresOn_of_none fun s hs => by rw [hpass s hs]; rfl, List.append_nil]
  have hreleased : kept.released = (passed.filterMap Prod.snd).map Fault.backend := by
    rw [released, failuresOn_append, failuresOn_append, failuresOn_done, List.nil_append,
      failuresOn_of_none hwork', List.nil_append, failuresOn_of_all hpass, ArrayLease.failures_releases]
  refine ⟨?_, hworked, hreleased, ?_⟩
  · rintro ⟨i, f, hmem⟩
    rcases List.mem_append.mp hmem with hmem | hmem
    · rcases List.mem_append.mp hmem with hmem | hmem
      · obtain ⟨_, _, h⟩ := List.mem_map.mp hmem
        cases h
      · cases hwork _ hmem
    · cases hpass _ hmem
  · rw [hworked, hreleased, failures_append, failures_append, failures_done, List.nil_append,
      ArrayLease.failures_releases]

variable (args : List Argument) (db : Database)

theorem lists_invoke (h : ((x.invoke d args).on db).1 = .error e) :
    Lists x (db.run (x.journal d args)).1 e := by
  have hmaking := ArrayLease.making_make d args x.arraySlots db
  rw [invoke_on] at h
  rw [journal, Database.run_bind]
  rcases hm : db.run (ArrayLease.make d args x.arraySlots) with
    ⟨⟨leases, _ | ⟨i, refusal⟩⟩, db₁⟩ <;> rw [hm] at h hmaking
  · obtain ⟨hdb, hf⟩ := x.tells_execute d args leases db₁
    simp only [ArrayLease.run_releaseAll, ← hdb] at h
    obtain ⟨e₀, hmerge, rfl⟩ := mapError_eq_error.mp h
    obtain ⟨hrefused, hworked, hreleased, hkept⟩ := kept_made
      (leases.map fun l => CallStep.make l.argument)
      (x.performed_executeJournal d args leases db₁).not_isLease
      (Database.run (db₁.run (x.executeJournal d args leases)).2 (ArrayLease.releases d leases)).1
    exact lists_of_made hrefused (hworked.trans hf) hreleased hkept
      (x.flat_execute d args leases db₁) hmerge
  · obtain ⟨f, rfl, _⟩ := hmaking.fault _ _ rfl
    cases h
    simp only [ArrayLease.run_releaseAll, Database.run_bind, Database.run_pure]
    refine lists_of_refused ⟨i, f, List.mem_append_left _ (List.mem_append_right _ ?_)⟩ ?_
    · exact List.mem_singleton.mpr rfl
    · rw [failures_append, failures_append, failures_done, ArrayLease.failures_releases]
      rfl

end Descriptor

namespace Caller

/-- After any session, an error of an invocation is one that was found before anything was asked
of the database, or it says which step failed first and lists the steps that failed later. -/
theorem failures_beside_first (d : Driver) (interface : Interface) (config : CallerConfig)
    (requests : List Request) (before db : Database) (method : String) (args : List Argument) :
    let c := (before.run (serveAll d { interface, config } requests)).1
    let invoked := db.run (c.invoke d method args)
    ∀ e, invoked.1.1 = .error e →
      (∃ f, e = .fault f ∧ f.isEarly = true) ∨
      ∃ m x, interface.find? method = some m ∧
        Plan.descriptor config m interface.metadata = .ok x ∧
        args.length = m.parameters.length ∧
        let kept := db.run (x.journal d args)
        invoked.2 = kept.2 ∧ Course x.arraySlots kept.1 ∧ Lists x kept.1 e := by
  intro c invoked e he
  have hc : Faithful interface config c := faithful_session d requests before
  rcases hp : c.plan method with ce | x
  · left
    simp only [invoked, Caller.run_invoke, hc.descriptor_fst, hp] at he
    cases he
    exact ⟨_, rfl, rfl⟩
  · obtain ⟨m, hm, hx⟩ := plan_eq_ok.mp hp
    rw [hc.interface, hc.config] at hx
    rw [hc.interface] at hm
    obtain ⟨out, hbuilt⟩ := Plan.built_of_descriptor hx
    by_cases hn : args.length = m.parameters.length
    · have hrun := hc.run_invoke d hm hx hn db
      obtain ⟨outcome, _, ho⟩ := x.journal_tells d args db
      simp only [invoked, hrun] at he ⊢
      exact .inr ⟨m, x, hm, hx, hn, congrArg Prod.snd ho, x.course_journal d args db,
        Descriptor.lists_invoke d args db he⟩
    · left
      rw [← hbuilt.parameterCount] at hn
      simp only [invoked, Caller.run_invoke, hc.descriptor_fst, hp, call, if_neg hn] at he
      cases he
      exact ⟨_, rfl, rfl⟩

def merging : Method where
  name := "merge"
  parameters := [.unnamed (.list (some .text)), .unnamed (.list (some .text))]

def mergingCall : Descriptor where
  method := "merge"
  procedureName := "merge"
  callString := "\x7bcall merge(?,?)\x7d"
  parameterCount := 2
  wrapsFailures := true
  inputs := .resourceBacked (.byIndex [some 1, some 2])
  output := .none
  extractor := .void .acceptAndIgnore
  arraySlots := [⟨0, "VARCHAR"⟩, ⟨1, "VARCHAR"⟩]

def unreleasing : Database where
  scripts := [(mergingCall.callString, { error := some ⟨.query, "no table"⟩ })]
  freeFailures := [(0, "first"), (1, "second")]

def mergingError : CallError :=
  .suppressed (.fault (.callFailed "merge" mergingCall.callString ⟨.query, "no table"⟩))
    [.suppressed (.backend ⟨.other, "first"⟩) [.backend ⟨.other, "second"⟩]]

theorem failures_beside_first_merging :
    let interface : Interface := { name := "merges", methods := [merging] }
    let args : List Argument := [.value (.array []), .value (.array [])]
    let c := (Database.run {} (serveAll Scripted.driver { interface, config := {} } [])).1
    let invoked := unreleasing.run (c.invoke Scripted.driver "merge" args)
    invoked.1.1 = .error mergingError ∧
      ((∃ f, mergingError = .fault f ∧ f.isEarly = true) ∨
      ∃ m x, interface.find? "merge" = some m ∧
        Plan.descriptor {} m interface.metadata = .ok x ∧
        args.length = m.parameters.length ∧
        let kept := unreleasing.run (x.journal Scripted.driver args)
        invoked.2 = kept.2 ∧ Course x.arraySlots kept.1 ∧ Lists x kept.1 mergingError) :=
  ⟨rfl, failures_beside_first Scripted.driver _ {} [] {} unreleasing "merge" _ mergingError rfl⟩

/-- Two steps fail after the execution, but one error is listed for them. -/
theorem releases_listed_as_one :
    let interface : Interface := { name := "merges", methods := [merging] }
    let args : List Argument := [.value (.array []), .value (.array [])]
    let invoked := unreleasing.run
      (Caller.invoke Scripted.driver { interface, config := {} } "merge" args)
    let kept := unreleasing.run (mergingCall.journal Scripted.driver args)
    Plan.descriptor {} merging interface.metadata = .ok mergingCall ∧
      kept.1.failures.tail = [.backend ⟨.other, "first"⟩, .backend ⟨.other, "second"⟩] ∧
      ∃ e, invoked.1.1 = .error e ∧ e.others.length = 1 ∧
        ¬ ∀ late ∈ e.others, ∃ f, late = .fault f := by
  refine ⟨rfl, rfl, mergingError, rfl, rfl, ?_⟩
  intro h
  obtain ⟨f, hf⟩ := h _ List.mem_cons_self
  cases hf

end Caller

end ProcCall
