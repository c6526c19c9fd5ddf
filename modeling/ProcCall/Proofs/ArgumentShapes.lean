import ProcCall.Proofs.Call.Origins
import ProcCall.Proofs.Call.Release
import ProcCall.Proofs.Session

/-! # Arguments of the wrong shape

An argument may be a value where a row mapper belongs, a row mapper where a value belongs, or
no array where an array belongs. Arrays are checked when they are made and values when they
are bound, so those refusals come before the execution. The row mapper of a list is looked up
only when its rows are read, so that refusal is for a call that has been executed.
-/

namespace ProcCall

/-- The first failure is that the ith argument is not what was expected. -/
def CallError.Misfits (e : CallError) (i : Nat) (expected : String) : Prop :=
  e.primary = .fault (.argumentShape i expected)

variable {i : Nat} {expected : String} {e : CallError}

namespace CallError

theorem mem_flatten_of_misfits (h : e.Misfits i expected) :
    .argumentShape i expected ∈ e.flatten := by
  cases e with
  | fault f =>
    obtain rfl := CallError.fault.inj h
    exact List.mem_singleton.mpr rfl
  | suppressed p others =>
    obtain rfl : p = .fault (.argumentShape i expected) := h
    exact List.mem_append_left _ (List.mem_singleton.mpr rfl)

theorem not_misfits_backend (b : BackendError) : ¬ (CallError.backend b).Misfits i expected :=
  nofun

theorem misfits_withSuppressed (late : List CallError) :
    (e.withSuppressed late).Misfits i expected ↔ e.Misfits i expected := by
  rw [Misfits, primary_withSuppressed, Misfits]

theorem misfits_wrap (x : Descriptor) : (x.wrap e).Misfits i expected ↔ e.Misfits i expected := by
  have hwrap : ∀ p : CallError, x.wrap p = .fault (.argumentShape i expected) ↔
      p = .fault (.argumentShape i expected) := by
    intro p
    unfold Descriptor.wrap
    split
    · cases p with
      | fault f => cases f <;> simp [Descriptor.wrapPrimary, Descriptor.wrapFault]
      | suppressed _ _ => simp [Descriptor.wrapPrimary]
    · rfl
  rw [Misfits, Descriptor.primary_wrap, hwrap, Misfits]

end CallError

/-! ## Releases -/

/-- The release may fail, but it is no argument that is refused. -/
def TakesAnyShape (r : Except CallError Unit) : Prop :=
  ∀ late i expected, r = .error late → ¬ late.Misfits i expected

theorem Script.takesAnyShape_closeOutcome (s : Script) : TakesAnyShape s.closeOutcome := by
  intro late i expected h
  unfold closeOutcome at h
  split at h
  · cases h
    exact CallError.not_misfits_backend _
  · cases h

theorem Database.takesAnyShape_returnOutcome (db : Database) (array : Option ArrayData) :
    TakesAnyShape (db.returnOutcome array) := by
  intro late i expected h
  unfold returnOutcome at h
  split at h
  · cases h
  · obtain ⟨b, -, rfl⟩ := mapError_eq_error.mp h
    exact CallError.not_misfits_backend b

theorem ArrayLease.takesAnyShape_releaseAll (d : Driver) (leases : List ArrayLease)
    (db : Database) : TakesAnyShape (CallError.ofFailures (db.run (releaseAll d leases)).1) := by
  intro late i expected h hlate
  rw [run_releaseAll] at h
  obtain ⟨first, others, -, hprimary, -⟩ := (closes_ofFailures _).fails late h
  cases hprimary.symm.trans hlate

/-- When work is followed by a release and an argument was refused, it was in the work. -/
theorem misfits_of_mergeRelease {α : Type} {o : Except CallError α} {r : Except CallError Unit}
    (hr : TakesAnyShape r) (h : mergeRelease o r = .error e) (he : e.Misfits i expected) :
    ∃ first, o = .error first ∧ first.Misfits i expected := by
  rcases Extractor.mergeRelease_eq_error h with ⟨first, ho, hp⟩ | hlate
  · exact ⟨first, ho, hp.symm.trans he⟩
  · exact absurd he (hr e i expected hlate)

theorem CallError.Misfits.mergeRelease {α : Type} (he : e.Misfits i expected)
    (r : Except CallError Unit) :
    ∃ e', mergeRelease (.error e : Except CallError α) r = .error e' ∧ e'.Misfits i expected := by
  rcases r with late | ⟨⟩
  · exact ⟨_, rfl, (misfits_withSuppressed [late]).mpr he⟩
  · exact ⟨e, rfl, he⟩

/-! ## Where shapes are refused -/

/-- How an invocation stands that refused its ith argument: what was expected there, and the
record of the call. -/
inductive ShapeRefused (x : Descriptor) (args : List Argument) (i : Nat) :
    String → Option CallRecord → Prop
  | array {slot : ArraySlot} (hs : slot ∈ x.arraySlots) (hi : slot.argument = i)
      (ha : ArrayLease.Misshaped args slot) : ShapeRefused x args i "array" none
  | value {r : CallRecord} {m : RowMapper} (hs : (x.inputs.slot? i).isSome = true)
      (ha : args[i]? = some (.mapper m)) (hr : r.executed = false) :
      ShapeRefused x args i "value" (some r)
  | rowMapper {r : CallRecord} {n : Option UInt32} (hx : x.extractor = .mappedList i n)
      (ha : args[i]?.bind Argument.mapper? = none) (hr : r.executed = true) :
      ShapeRefused x args i "row mapper" (some r)

/-- Only the refusal of a row mapper is one of an executed call. -/
theorem ShapeRefused.executed_iff {x : Descriptor} {args : List Argument}
    {record : Option CallRecord} (h : ShapeRefused x args i expected record) :
    (∃ r ∈ record, r.executed = true) ↔ expected = "row mapper" := by
  cases h with
  | array => simp
  | value _ _ hr => simp [hr]
  | rowMapper _ _ hr => simp [hr]

namespace Binder

theorem mapper_of_entry {b : Binder} {array : Option ArrayHandle} {j : Nat} {a : Argument}
    (h : b.entry array j a = .error e) (he : e.Misfits i expected) :
    i = j ∧ expected = "value" ∧ (b.slot? j).isSome = true ∧ ∃ m, a = .mapper m := by
  have hentryAt : ∀ slot binding, (entryAt slot binding).map some = .error e → False := by
    intro slot binding h
    rw [map_eq_error, entryAt] at h
    split at h
    · cases h
      exact CallError.not_misfits_backend _ he
    · cases h
  unfold entry at h
  rcases hs : b.slot? j with _ | slot <;> rw [hs] at h
  · cases h
  · rcases array with _ | array <;> rcases a with v | m
    · exact (hentryAt _ _ h).elim
    · cases h
      cases he
      exact ⟨rfl, rfl, rfl, m, rfl⟩
    · exact (hentryAt _ _ h).elim
    · exact (hentryAt _ _ h).elim

theorem mapper_of_entries {b : Binder} {args : List Argument} {leases : List ArrayLease}
    (h : (b.entries args leases).2 = some e) (he : e.Misfits i expected) :
    expected = "value" ∧ (b.slot? i).isSome = true ∧ ∃ m, args[i]? = some (.mapper m) := by
  obtain ⟨j, a, ha, hentry, -⟩ := exists_refused h
  rw [Nat.zero_add] at hentry
  obtain ⟨rfl, hexpected, hslot, m, rfl⟩ := mapper_of_entry hentry he
  exact ⟨hexpected, hslot, m, ha⟩

end Binder

namespace Descriptor

variable {x : Descriptor} {args : List Argument} {leases : List ArrayLease} {db : Database}

theorem shapeRefused_answer {s : Script} (h : (x.answer args leases s).1 = .error e)
    (he : e.Misfits i expected) :
    ShapeRefused x args i expected (some (x.record args leases s)) := by
  unfold answer at h
  rcases hentries : (x.inputs.entries args leases).2 with _ | refusal <;> rw [hentries] at h
  · have hexecuted : (x.record args leases s).executed = true := executed_record.mpr hentries
    rcases hs : Extractor.started s with failure | rows <;> rw [hs] at h
    · cases h
      unfold Extractor.started at hs
      split at hs
      · cases hs
        exact (CallError.not_misfits_backend _ he).elim
      · cases hs
    · have hfails : FailsOnly (Fault.OfResult x.extractor x.output args)
          (x.extractor.answer s x.output (x.inputs.entries args leases).1 args rows).1 :=
        Extractor.failsOnly_answer x.extractor rows
      dsimp only at h
      rw [h] at hfails
      cases hfails _ (CallError.mem_flatten_of_misfits he) with
      | noMapper hx ha => exact .rowMapper hx ha hexecuted
  · cases h
    obtain ⟨rfl, hslot, m, ha⟩ := Binder.mapper_of_entries hentries he
    refine .value hslot ha (Bool.eq_false_iff.mpr fun hexecuted => ?_)
    cases hentries.symm.trans (executed_record.mp hexecuted)

theorem shapeRefused_execute (h : ((x.execute Scripted.driver args leases).on db).1 = .error e)
    (he : e.Misfits i expected) :
    ShapeRefused x args i expected (x.record? args leases (db.script x.callString)) := by
  rw [execute_on] at h
  rw [record?]
  rcases hp : (db.script x.callString).prepareError with _ | failure <;> rw [hp] at h
  · obtain ⟨worked, hworked, hmisfits⟩ :=
      misfits_of_mergeRelease (Script.takesAnyShape_closeOutcome _) h he
    obtain ⟨answered, hanswered, hmisfits⟩ :=
      misfits_of_mergeRelease (db.takesAnyShape_returnOutcome _) hworked hmisfits
    exact shapeRefused_answer hanswered hmisfits
  · cases h
    exact (CallError.not_misfits_backend _ he).elim

theorem shapeRefused_invoke (h : ((x.invoke Scripted.driver args).on db).1 = .error e)
    (he : e.Misfits i expected) :
    ShapeRefused x args i expected (x.invocationRecord? args db) := by
  have hm := (ArrayLease.making_make Scripted.driver args x.arraySlots db).numbered
  rw [invoke_on] at h
  rw [invocationRecord?]
  rcases hr : db.run (ArrayLease.make Scripted.driver args x.arraySlots) with
    ⟨⟨leases, _ | ⟨j, refusal⟩⟩, db₁⟩ <;> rw [hr] at h hm
  · obtain ⟨merged, hmerged, rfl⟩ := mapError_eq_error.mp h
    obtain ⟨executed, hexecuted, hmisfits⟩ := misfits_of_mergeRelease
      (ArrayLease.takesAnyShape_releaseAll _ _ _) hmerged ((CallError.misfits_wrap x).mp he)
    rw [← hm.setup.script]
    exact shapeRefused_execute hexecuted hmisfits
  · cases h
    rw [CallError.misfits_wrap, CallError.misfits_withSuppressed] at he
    obtain ⟨before, slot, after, db₀, f, hslots, -, hrefused, rfl⟩ :=
      ArrayLease.exists_refusedWith hr
    cases hrefused with
    | misshaped ha =>
      cases he
      exact .array (hslots ▸ by simp) rfl ha
    | failed _ _ => cases he

theorem misfits_of_launched {n : Option UInt32} (hx : x.extractor = .mappedList i n)
    (ha : args[i]?.bind Argument.mapper? = none) (hl : x.Launched args db)
    (hs : (db.script x.callString).error = none) :
    ∃ e, ((x.invoke Scripted.driver args).on db).1 = .error e ∧ e.Misfits i "row mapper" := by
  obtain ⟨r, hrecord, hexecuted⟩ := launched_iff.mp hl
  obtain ⟨leases, stmt, db', hprepared, rfl⟩ := invocationRecord?_eq_some.mp hrecord
  obtain ⟨db₁, hmake, hprepare, -, -⟩ := prepared_iff.mp hprepared
  have hm := (ArrayLease.making_make Scripted.driver args x.arraySlots db).numbered
  rw [hmake] at hm
  have hanswer : (x.answer args leases (db.script x.callString)).1 =
      .error (.fault (.argumentShape i "row mapper")) := by
    rw [answer, executed_record.mp hexecuted, Extractor.started, hs]
    simp only [Extractor.answer, hx, ha]
  have hshape : (CallError.fault (.argumentShape i "row mapper")).Misfits i "row mapper" := rfl
  rw [invoke_on, hmake]
  dsimp only
  rw [execute_on, hm.setup.script, hprepare]
  dsimp only
  rw [hanswer]
  obtain ⟨e₁, h₁, he₁⟩ := hshape.mergeRelease (α := Value)
    (db₁.returnOutcome (x.answer args leases (db.script x.callString)).2)
  obtain ⟨e₂, h₂, he₂⟩ := he₁.mergeRelease (α := Value) (db.script x.callString).closeOutcome
  rw [h₁, h₂]
  obtain ⟨e₃, h₃, he₃⟩ := he₂.mergeRelease (α := Value) (CallError.ofFailures
    (Database.run _ (ArrayLease.releaseAll Scripted.driver leases)).1)
  rw [h₃]
  exact ⟨x.wrap e₃, rfl, (CallError.misfits_wrap x).mpr he₃⟩

end Descriptor

namespace Caller

/-- An invocation that is refused for the shape of an argument has not executed a call, unless
the argument is the row mapper of a list. If that one is something else, the call is executed
first, and refused if all went well until then. -/
theorem shape_refusals (c : Caller) (db : Database) (method : String) (args : List Argument) :
    let invoked := db.run (c.invoke Scripted.driver method args)
    (∀ e i expected, invoked.1.1 = .error e → e.Misfits i expected →
      ∃ x record, (c.descriptor method).1 = .ok x ∧ invoked.2.calls = db.calls ++ record.toList ∧
        ShapeRefused x args i expected record ∧
        ((∃ r ∈ record, r.executed = true) ↔ expected = "row mapper")) ∧
    ∀ x i n, (c.descriptor method).1 = .ok x → args.length = x.parameterCount →
      x.extractor = .mappedList i n → args[i]?.bind Argument.mapper? = none →
      x.Launched args db → (db.script x.callString).error = none →
        ∃ e, invoked.1.1 = .error e ∧ e.Misfits i "row mapper" := by
  intro invoked
  constructor
  · intro e i expected he hmisfits
    simp only [invoked, run_invoke] at he ⊢
    rcases hfound : (c.descriptor method).1 with ce | x <;> rw [hfound] at he
    · cases he
      cases hmisfits
    · by_cases hn : args.length = x.parameterCount
      · simp only [call, if_pos hn] at he ⊢
        have hrefused := Descriptor.shapeRefused_invoke he hmisfits
        exact ⟨x, _, rfl, (x.settles_invoke args db).calls, hrefused, hrefused.executed_iff⟩
      · simp only [call, if_neg hn] at he
        cases he
        cases hmisfits
  · intro x i n hfound hn hx ha hl hs
    simp only [invoked, run_invoke, hfound, call, if_pos hn]
    exact Descriptor.misfits_of_launched hx ha hl hs

def purging : Method where
  name := "purge"
  parameters := [.unnamed .rowMapper]
  returns := .list none

def tagging : Method where
  name := "tag"
  parameters := [.unnamed (.list (some .text)), .unnamed (.scalar .text)]

def purgingCall : Descriptor where
  method := "purge"
  procedureName := "purge"
  callString := "\x7bcall purge()\x7d"
  parameterCount := 1
  wrapsFailures := true
  inputs := .noParameters
  output := .none
  extractor := .mappedList 0 none
  arraySlots := []

/-- One call is refused while it is bound, after an array was made and bound, and the other
when its rows should be read. -/
theorem shape_refusals_late :
    let c : Caller :=
      { interface := { name := "shapes", methods := [tagging, purging] }, config := {} }
    let mapper : Argument := .mapper (.plain fun row => .ok row.first)
    let args : List Argument := [.value (.array []), mapper]
    let tagged := Database.run {} (c.invoke Scripted.driver "tag" args)
    let purged := Database.run {} (c.invoke Scripted.driver "purge" [.value .null])
    (∃ e, tagged.1.1 = .error e ∧ e.Misfits 1 "value" ∧
      ∃ x record, (c.descriptor "tag").1 = .ok x ∧ tagged.2.calls = [] ++ record.toList ∧
        ShapeRefused x args 1 "value" record ∧
        ((∃ r ∈ record, r.executed = true) ↔ "value" = "row mapper")) ∧
    (c.descriptor "purge").1 = .ok purgingCall ∧ purgingCall.Launched [.value .null] {} ∧
    ∃ e, purged.1.1 = .error e ∧ e.Misfits 0 "row mapper" := by
  intro c mapper args tagged purged
  have hpurge : (c.descriptor "purge").1 = .ok purgingCall := rfl
  have hlaunched : purgingCall.Launched [.value .null] {} :=
    ⟨[], _, _, _, _, ⟨_, rfl, rfl⟩, rfl, rfl⟩
  refine ⟨⟨_, rfl, rfl, ?_⟩, hpurge, hlaunched, ?_⟩
  · exact (shape_refusals c {} "tag" args).1 _ 1 "value" rfl rfl
  · exact (shape_refusals c {} "purge" [.value .null]).2 purgingCall 0 none hpurge rfl rfl rfl
      hlaunched rfl

theorem executed_before_refusal :
    let c : Caller := { interface := { name := "shapes", methods := [purging] }, config := {} }
    let purged := Database.run {} (c.invoke Scripted.driver "purge" [.value .null])
    purged.1.1 = .error (.fault (.argumentShape 0 "row mapper")) ∧
      purged.2.calls = [{ call := purgingCall.callString, executed := true, closed := true }] :=
  ⟨rfl, rfl⟩

end Caller

end ProcCall
