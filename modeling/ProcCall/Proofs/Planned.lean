import ProcCall.Proofs.Plan.Built
import ProcCall.Proofs.Session

/-! # What a caller keeps

A caller that began with nothing keeps only what planning its interface gives, so a
method is always found to have the descriptor that planning it gives.
-/

namespace ProcCall.Caller

/-- The caller serves this interface and keeps only descriptors that were planned for it. -/
structure Faithful (interface : Interface) (config : CallerConfig) (c : Caller) : Prop where
  interface : c.interface = interface
  config : c.config = config
  planned : ∀ kept ∈ c.planned, c.plan kept.1 = .ok kept.2

variable {interface : Interface} {config : CallerConfig} {c : Caller}

theorem faithful_fresh (interface : Interface) (config : CallerConfig) :
    Faithful interface config { interface, config } :=
  ⟨rfl, rfl, fun _ h => nomatch h⟩

theorem plan_eq_ok {name : String} {x : Descriptor} :
    c.plan name = .ok x ↔ ∃ m, c.interface.find? name = some m ∧
      Plan.descriptor c.config m c.interface.metadata = .ok x := by
  unfold plan
  rcases c.interface.find? name with _ | m <;> simp

theorem mem_of_lookup {method : String} {x : Descriptor} {kept : List (String × Descriptor)}
    (h : kept.lookup method = some x) : (method, x) ∈ kept := by
  obtain ⟨before, after, rfl, _⟩ := List.lookup_eq_some_iff.mp h
  simp

theorem Faithful.descriptor_fst (h : Faithful interface config c) (method : String) :
    (c.descriptor method).1 = c.plan method := by
  unfold descriptor
  rcases hk : c.planned.lookup method with _ | x
  · cases c.plan method <;> rfl
  · exact (h.planned _ (mem_of_lookup hk)).symm

theorem Faithful.descriptor_snd (h : Faithful interface config c) (method : String) :
    Faithful interface config (c.descriptor method).2 := by
  unfold descriptor
  rcases c.planned.lookup method with _ | x
  · rcases hp : c.plan method with e | x
    · exact h
    · refine ⟨h.interface, h.config, ?_⟩
      intro kept hk
      rcases List.mem_append.mp hk with hk | hk
      · exact h.planned kept hk
      · obtain rfl := List.mem_singleton.mp hk
        exact hp
  · exact h

variable (d : Driver)

theorem Faithful.serve (h : Faithful interface config c) (r : Request) (db : Database) :
    Faithful interface config (db.run (c.serve d r)).1 := by
  cases r with
  | plan method => exact h.descriptor_snd method
  | invoke method args => exact h.descriptor_snd method

theorem Faithful.serveAll (requests : List Request) (h : Faithful interface config c)
    (db : Database) : Faithful interface config (db.run (c.serveAll d requests)).1 := by
  induction requests generalizing c db with
  | nil => exact h
  | cons r rest ih => exact ih (h.serve d r db) _

theorem faithful_session (requests : List Request) (db : Database) :
    Faithful interface config (db.run (Caller.serveAll d { interface, config } requests)).1 :=
  (faithful_fresh interface config).serveAll d requests db

theorem Faithful.descriptor_of_find? (h : Faithful interface config c) {method : String}
    {m : Method} (hm : interface.find? method = some m) :
    (c.descriptor method).1 = Plan.descriptor config m interface.metadata := by
  rw [h.descriptor_fst, plan, h.interface, h.config, hm]

theorem Faithful.run_invoke (h : Faithful interface config c) {method : String} {m : Method}
    {x : Descriptor} {args : List Argument} (hm : interface.find? method = some m)
    (hx : Plan.descriptor config m interface.metadata = .ok x)
    (hn : args.length = m.parameters.length) (db : Database) :
    db.run (c.invoke d method args) =
      ((((x.invoke d args).on db).1, (c.descriptor method).2), ((x.invoke d args).on db).2) := by
  obtain ⟨out, hbuilt⟩ := Plan.built_of_descriptor hx
  have hcall : call d method args (c.descriptor method).1 = x.invoke d args := by
    rw [h.descriptor_of_find? hm, hx, call, if_pos (hn.trans hbuilt.parameterCount.symm)]
  rw [Caller.run_invoke, hcall]

end ProcCall.Caller
