import Mathlib.Data.Finset.Card
import ProcCall.Proofs.Call.Quiet
import ProcCall.Proofs.Planned

/-! # Histories

What a caller keeps follows from the names it was asked for, and on a database that
fails no array a call goes as if it were the first: nothing of the requests before it
shows in its outcome or in its record.
-/

namespace ProcCall

def Request.method : Request → String
  | plan method | invoke method _ => method

namespace Caller

variable {c : Caller} {names : List String} {name : String} {x : Descriptor}

/-! ## What is kept -/

/-- The caller keeps one descriptor for each of the names that can be planned, and no
others. -/
structure Keeps (c : Caller) (names : List String) : Prop where
  nodup : (c.planned.map Prod.fst).Nodup
  lookup : ∀ name x, c.planned.lookup name = some x ↔ name ∈ names ∧ c.plan name = .ok x

theorem keeps_fresh (interface : Interface) (config : CallerConfig) :
    Keeps { interface, config } [] :=
  ⟨.nil, fun _ _ => ⟨nofun, fun h => nomatch h.1⟩⟩

theorem lookup_eq_none : c.planned.lookup name = none ↔ name ∉ c.planned.map Prod.fst := by
  rw [List.lookup_eq_none_iff, List.mem_map]
  constructor
  · rintro h ⟨kept, hk, rfl⟩
    exact absurd (h kept hk) (by simp)
  · intro h kept hk
    exact bne_iff_ne.mpr fun he => h ⟨kept, hk, he.symm⟩

/-- A name adds nothing that was there before or cannot be planned. -/
theorem Keeps.append (h : c.Keeps names) (hm : ∀ x, c.plan name = .ok x → name ∈ names) :
    c.Keeps (names ++ [name]) := by
  refine ⟨h.nodup, fun other x => (h.lookup other x).trans ?_⟩
  rw [List.mem_append, List.mem_singleton]
  constructor
  · rintro ⟨hn, hx⟩
    exact ⟨.inl hn, hx⟩
  · rintro ⟨hn | rfl, hx⟩
    · exact ⟨hn, hx⟩
    · exact ⟨hm x hx, hx⟩

theorem Keeps.add (h : c.Keeps names) (hk : c.planned.lookup name = none)
    (hp : c.plan name = .ok x) :
    Keeps { c with planned := c.planned ++ [(name, x)] } (names ++ [name]) := by
  constructor
  · rw [List.map_append, List.nodup_append]
    refine ⟨h.nodup, List.nodup_singleton name, ?_⟩
    rintro kept hkept _ hm rfl
    obtain rfl := List.mem_singleton.mp hm
    exact lookup_eq_none.mp hk hkept
  · intro other y
    change (c.planned ++ [(name, x)]).lookup other = some y ↔
      other ∈ names ++ [name] ∧ c.plan other = .ok y
    rw [List.lookup_append, List.mem_append, List.mem_singleton]
    by_cases hn : other = name
    · subst hn
      rw [hk, hp, Option.none_or, List.lookup_cons_self]
      simp
    · have hs : List.lookup other [(name, x)] = none := by
        rw [List.lookup_cons, beq_false_of_ne hn]
        rfl
      rw [hs, Option.or_none, h.lookup]
      simp [hn]

theorem Keeps.descriptor (h : c.Keeps names) (method : String) :
    (c.descriptor method).2.Keeps (names ++ [method]) := by
  unfold Caller.descriptor
  rcases hk : c.planned.lookup method with _ | x
  · rcases hp : c.plan method with e | x
    · exact h.append fun x hx => nomatch hp.symm.trans hx
    · exact h.add hk hp
  · exact h.append fun _ _ => ((h.lookup method x).mp hk).1

variable (d : Driver)

theorem Keeps.serve (h : c.Keeps names) (r : Request) (db : Database) :
    (db.run (c.serve d r)).1.Keeps (names ++ [r.method]) := by
  cases r with
  | plan method => exact h.descriptor method
  | invoke method args => exact h.descriptor method

theorem Keeps.serveAll (requests : List Request) (h : c.Keeps names) (db : Database) :
    (db.run (c.serveAll d requests)).1.Keeps (names ++ requests.map Request.method) := by
  induction requests generalizing c names db with
  | nil => rwa [List.map_nil, List.append_nil]
  | cons r rest ih =>
    have hrest := ih (h.serve d r db) (db.run (c.serve d r)).2
    rwa [List.append_assoc] at hrest

theorem Keeps.length (h : c.Keeps names) :
    c.planned.length = (names.toFinset.filter fun name => (c.plan name).isOk).card := by
  rw [← List.length_map Prod.fst, ← List.toFinset_card_of_nodup h.nodup]
  congr 1
  ext name
  rw [List.mem_toFinset, Finset.mem_filter, List.mem_toFinset]
  constructor
  · intro hkept
    obtain ⟨x, hx⟩ := Option.ne_none_iff_exists'.mp fun hn => lookup_eq_none.mp hn hkept
    obtain ⟨hname, hp⟩ := (h.lookup name x).mp hx
    exact ⟨hname, by rw [hp]; rfl⟩
  · rintro ⟨hname, hok⟩
    rcases hp : c.plan name with e | x
    · rw [hp] at hok
      cases hok
    · exact List.mem_map_of_mem (f := Prod.fst) (mem_of_lookup ((h.lookup name x).mpr ⟨hname, hp⟩))

/-! ## What a call depends on -/

theorem sameSetup_call (method : String) (args : List Argument) (db : Database)
    (found : Except ConfigError Descriptor) :
    db.SameSetup ((call Scripted.driver method args found).on db).2 := by
  unfold call
  split
  · exact .refl db
  · split
    · exact Descriptor.sameSetup_invoke _ args db
    · exact .refl db

theorem sameSetup_serve (c : Caller) (r : Request) (db : Database) :
    db.SameSetup (db.run (c.serve Scripted.driver r)).2 := by
  cases r with
  | plan method => exact .refl db
  | invoke method args => exact sameSetup_call method args db (c.descriptor method).1

theorem sameSetup_serveAll (requests : List Request) (c : Caller) (db : Database) :
    db.SameSetup (db.run (c.serveAll Scripted.driver requests)).2 := by
  induction requests generalizing c db with
  | nil => exact .refl db
  | cons r rest ih => exact (sameSetup_serve c r db).trans (ih _ _)

theorem call_alike {db₁ db₂ : Database} (h₁ : db₁.Quiet) (h₂ : db₂.Quiet)
    (hs : db₁.scripts = db₂.scripts) (method : String) (args : List Argument)
    (found : Except ConfigError Descriptor) :
    ((call Scripted.driver method args found).on db₁).1 =
        ((call Scripted.driver method args found).on db₂).1 ∧
      callRecord? args db₁ found = callRecord? args db₂ found := by
  rcases found with e | x
  · exact ⟨rfl, rfl⟩
  · by_cases hn : args.length = x.parameterCount
    · simp only [call, callRecord?, if_pos hn]
      exact x.invoke_alike h₁ h₂ hs
    · simp only [call, callRecord?, if_neg hn]
      exact ⟨rfl, trivial⟩

/-- After any session on a database that fails no array, the caller keeps the descriptors of
the methods it was asked for that can be planned, for good, and the next call has the
outcome and the record that it has for a fresh caller on a fresh database. -/
theorem history_independent (interface : Interface) (config : CallerConfig)
    (scripts : List (String × Script)) (calls : List CallRecord) (arrays : List ArrayRecord)
    (clientArraysCreated : Nat) (untyped : Bool) (requests : List Request) :
    let start : Caller := { interface, config }
    let before : Database := { scripts, calls, arrays, clientArraysCreated, untyped }
    let c := (before.run (start.serveAll Scripted.driver requests)).1
    let db := (before.run (start.serveAll Scripted.driver requests)).2
    let asked := requests.map Request.method
    ((c.planned.map Prod.fst).Nodup ∧
      ∀ name x, c.planned.lookup name = some x ↔ name ∈ asked ∧
        ∃ m, interface.find? name = some m ∧
          Plan.descriptor config m interface.metadata = .ok x) ∧
    c.planned.length = (asked.toFinset.filter fun name => (start.plan name).isOk).card ∧
    (∀ (more : List Request) (later : Database) name x, c.planned.lookup name = some x →
      (later.run (c.serveAll Scripted.driver more)).1.planned.lookup name = some x) ∧
    ∀ (method : String) (args : List Argument),
      let fresh : Database := { scripts, untyped }
      (db.run (c.invoke Scripted.driver method args)).1.1 =
          (fresh.run (start.invoke Scripted.driver method args)).1.1 ∧
        (db.run (c.invoke Scripted.driver method args)).2.calls =
          db.calls ++ (fresh.run (start.invoke Scripted.driver method args)).2.calls := by
  intro start before c db asked
  have hc : Faithful interface config c := faithful_session Scripted.driver requests before
  have hkeeps : c.Keeps asked :=
    (keeps_fresh interface config).serveAll Scripted.driver requests before
  have hplan : c.plan = start.plan := by
    funext name
    rw [plan, hc.interface, hc.config, plan]
  -- A session changes neither the scripts nor the planned failures, so the next call is one
  -- on a quiet database with the scripts of the first.
  have hsetup : before.SameSetup db := sameSetup_serveAll requests start before
  have hquiet : before.Quiet := ⟨rfl, rfl⟩
  refine ⟨⟨hkeeps.nodup, fun name x => ?_⟩, hplan ▸ hkeeps.length, ?_, ?_⟩
  · rw [hkeeps.lookup, hplan, plan_eq_ok]
  · intro more later name x hx
    have hmore := hkeeps.serveAll Scripted.driver more later
    have hf := hc.serveAll Scripted.driver more later
    obtain ⟨hname, hp⟩ := (hkeeps.lookup name x).mp hx
    refine (hmore.lookup name x).mpr ⟨List.mem_append_left _ hname, ?_⟩
    rw [plan, hf.interface, hf.config, ← hc.interface, ← hc.config]
    exact hp
  · intro method args fresh
    obtain ⟨houtcome, hrecord⟩ := call_alike (hsetup.quiet hquiet) (⟨rfl, rfl⟩ : fresh.Quiet)
      hsetup.scripts method args (c.descriptor method).1
    have hfound : (start.descriptor method).1 = (c.descriptor method).1 := by
      rw [hc.descriptor_fst, (faithful_fresh interface config).descriptor_fst, hplan]
    rw [run_invoke, run_invoke, hfound]
    refine ⟨houtcome, ?_⟩
    rw [(settles_call method args db _).calls, (settles_call method args fresh _).calls, hrecord]
    rfl

end Caller

end ProcCall
