import ProcCall.Proofs.Call.Course
import ProcCall.Proofs.Planned

/-! # What an invocation reports

An invocation fails exactly if one of its steps fails, and its error has the failures of
all steps in the order in which they happened. The first one is wrapped as the method
asks; the later ones are failures of the database, as they came.
-/

namespace ProcCall

namespace Descriptor

/-- The outcome is a success if there are no failures, and otherwise an error with these
failures of which the first is wrapped. -/
def Reports (x : Descriptor) (failures : List Fault) : Except CallError Value → Prop
  | .ok _ => failures = []
  | .error e => ∃ first late, failures = first :: late ∧
      e.flatten.map CallError.fault = x.wrap (.fault first) :: late.map CallError.fault ∧
      ∀ f ∈ late, ∃ b, f = .backend b

theorem reports_wrap (x : Descriptor) {failures : List Fault} {outcome : Except CallError Value}
    (h : failures = failuresOf outcome) (hf : FirstThenBackend failures) :
    x.Reports failures (outcome.mapError x.wrap) := by
  cases outcome with
  | ok v => exact h
  | error e =>
    obtain ⟨late, he⟩ := e.flatten_eq_first_cons
    obtain rfl : failures = e.first :: late := h.trans he
    exact ⟨e.first, late, rfl, x.flatten_wrap he, hf⟩

end Descriptor

namespace Caller

/-- On any driver and after any session, the outcome of an invocation reports the failures
of its steps. -/
theorem invoke_reports (d : Driver) (interface : Interface) (config : CallerConfig)
    (requests : List Request) (before db : Database) {method : String} {m : Method}
    {x : Descriptor} {args : List Argument} (hm : interface.find? method = some m)
    (hx : Plan.descriptor config m interface.metadata = .ok x)
    (hn : args.length = m.parameters.length) :
    let c := (before.run (serveAll d { interface, config } requests)).1
    let invoked := db.run (c.invoke d method args)
    let kept := db.run (x.journal d args)
    invoked.2 = kept.2 ∧ Course x.arraySlots kept.1 ∧
      (x.arraySlots.map ArraySlot.argument).Pairwise (· < ·) ∧
      x.Reports kept.1.failures invoked.1.1 := by
  intro c invoked kept
  obtain ⟨out, hbuilt⟩ := Plan.built_of_descriptor hx
  obtain ⟨outcome, hf, ho⟩ := x.journal_tells d args db
  have hinvoked : invoked = ((outcome.mapError x.wrap, (c.descriptor method).2), kept.2) := by
    have hc := (faithful_session d requests before).run_invoke d hm hx hn db
    rwa [ho] at hc
  have hcourse := x.course_journal d args db
  refine ⟨by rw [hinvoked], hcourse, Plan.pairwise_arraySlots hbuilt.arraySlots, ?_⟩
  rw [hinvoked]
  exact x.reports_wrap hf hcourse.failures

def storing : Interface where
  name := "store"
  methods := [{ name := "put", parameters := [.unnamed (.list (some .text))] }]

def storingCall : Descriptor where
  method := "put"
  procedureName := "put"
  callString := "\x7bcall put(?)\x7d"
  parameterCount := 1
  wrapsFailures := true
  inputs := .resourceBacked (.byIndex [some 1])
  output := .none
  extractor := .void .acceptAndIgnore
  arraySlots := [⟨0, "VARCHAR"⟩]

/-- A database on which the call fails, then its closing and the release of its array. -/
def failing : Database where
  scripts := [(storingCall.callString, {
    error := some ⟨.query, "no table"⟩
    closeError := some ⟨.connection, "gone"⟩ })]
  freeFailures := [(0, "held")]

theorem invoke_reports_storing :
    let c := (failing.run
      (serveAll Scripted.driver { interface := storing, config := {} } [.plan "put"])).1
    let invoked := failing.run (c.invoke Scripted.driver "put" [.value (.array [])])
    let kept := failing.run (storingCall.journal Scripted.driver [.value (.array [])])
    kept.1.failures = [.backend ⟨.query, "no table"⟩, .backend ⟨.connection, "gone"⟩,
      .backend ⟨.other, "held"⟩] ∧
    invoked.2 = kept.2 ∧ Course storingCall.arraySlots kept.1 ∧
      (storingCall.arraySlots.map ArraySlot.argument).Pairwise (· < ·) ∧
      storingCall.Reports kept.1.failures invoked.1.1 :=
  ⟨rfl, invoke_reports Scripted.driver storing {} [.plan "put"] failing failing rfl rfl rfl⟩

end Caller

end ProcCall
