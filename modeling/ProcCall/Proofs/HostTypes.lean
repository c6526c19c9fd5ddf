import Mathlib.Data.List.Forall2
import ProcCall.Proofs.Call.Yield
import ProcCall.Proofs.Planned

/-! # Results as host types

A method that declares a scalar, or a list of scalars, gives what can be had as the host
type of its kind: always as a type that may be absent, and as a plain one if nothing is
NULL.
-/

namespace ProcCall

/-! ## Converting cells -/

def Converted.ofCell : Option Scalar → Converted
  | none => absent
  | some s => present (scalar s)

namespace Target

theorem convertItems_eq_ok {α : Type} {item : Value → Except Fault α} {vs : List Value}
    {cs : List α} :
    convertItems item vs = .ok cs ↔ List.Forall₂ (fun v c => item v = .ok c) vs cs := by
  induction vs generalizing cs with
  | nil =>
    rw [List.forall₂_nil_left_iff, convertItems, Except.ok.injEq, eq_comm]
  | cons v vs ih =>
    rw [convertItems, bind_eq_ok, List.forall₂_cons_left_iff]
    constructor
    · rintro ⟨c, hc, h⟩
      obtain ⟨rest, hrest, h⟩ := bind_eq_ok.mp h
      exact ⟨c, rest, hc, ih.mp hrest, (Except.ok.inj h).symm⟩
    · rintro ⟨c, rest, hc, hrest, rfl⟩
      exact ⟨c, hc, bind_eq_ok.mpr ⟨rest, ih.mpr hrest, rfl⟩⟩

variable {t : HostType}

theorem convert_scalar {s : Scalar} (h : s.kind = t.kind) :
    (scalar t).convert (.scalar s) = .ok (.scalar s) := by
  rw [convert, Value.coerce, Scalar.coerce_kind h]
  rfl

theorem convert_option_cell {cell : Option Scalar} (h : ∀ s ∈ cell, s.kind = t.kind) :
    (option (scalar t)).convert (.ofCell cell) = .ok (.ofCell cell) := by
  cases cell with
  | none => rfl
  | some s =>
    change ((scalar t).convert (.scalar s)).map Converted.present = _
    rw [convert_scalar (h s rfl)]
    rfl

theorem convert_cell_eq_ok {cell : Option Scalar} (h : ∀ s ∈ cell, s.kind = t.kind)
    {c : Converted} :
    (scalar t).convert (.ofCell cell) = .ok c ↔ ∃ s, cell = some s ∧ c = .scalar s := by
  cases cell with
  | none =>
    constructor
    · rintro ⟨⟩
    · rintro ⟨s, ⟨⟩, _⟩
  | some s =>
    have hs := convert_scalar (h s rfl)
    constructor
    · intro hc
      exact ⟨s, rfl, Except.ok.inj (hc.symm.trans hs)⟩
    · rintro ⟨_, ⟨⟩, rfl⟩
      exact hs

theorem convert_list (target : Target) (vs : List Value) {c : Converted} :
    (list target).convert (.array vs) = .ok c ↔
      ∃ cs, c = .list cs ∧ List.Forall₂ (fun v c => target.convert v = .ok c) vs cs := by
  rw [convert, map_eq_ok]
  constructor
  · rintro ⟨cs, hcs, rfl⟩
    exact ⟨cs, rfl, convertItems_eq_ok.mp hcs⟩
  · rintro ⟨cs, rfl, hcs⟩
    exact ⟨cs, convertItems_eq_ok.mpr hcs, rfl⟩

variable {cells : List (Option Scalar)}

theorem convert_list_option (h : ∀ cell ∈ cells, ∀ s ∈ cell, s.kind = t.kind) :
    (list (option (scalar t))).convert (.array (cells.map Value.ofCell)) =
      .ok (.list (cells.map Converted.ofCell)) := by
  refine (convert_list _ _).mpr ⟨_, rfl, ?_⟩
  rw [List.forall₂_map_left_iff, List.forall₂_map_right_iff, List.forall₂_same]
  exact fun cell hm => convert_option_cell (h cell hm)

theorem forall₂_holds {cs : List Converted} :
    List.Forall₂ (fun cell c => ∃ s : Scalar, cell = some s ∧ c = .scalar s) cells cs ↔
      ∃ ss : List Scalar, cells = ss.map some ∧ cs = ss.map Converted.scalar := by
  constructor
  · intro h
    induction h with
    | nil => exact ⟨[], rfl, rfl⟩
    | cons hc _ ih =>
      obtain ⟨s, rfl, rfl⟩ := hc
      obtain ⟨ss, rfl, rfl⟩ := ih
      exact ⟨s :: ss, rfl, rfl⟩
  · rintro ⟨ss, rfl, rfl⟩
    rw [List.forall₂_map_left_iff, List.forall₂_map_right_iff, List.forall₂_same]
    exact fun s _ => ⟨s, rfl, rfl⟩

theorem convert_list_eq_ok (h : ∀ cell ∈ cells, ∀ s ∈ cell, s.kind = t.kind) {c : Converted} :
    (list (scalar t)).convert (.array (cells.map Value.ofCell)) = .ok c ↔
      ∃ ss : List Scalar, cells = ss.map some ∧ c = .list (ss.map .scalar) := by
  rw [convert_list]
  constructor
  · rintro ⟨cs, rfl, hcs⟩
    rw [List.forall₂_map_left_iff] at hcs
    have hcells := (List.forall₂_and_left (p := (· ∈ cells)) _ _).mpr ⟨fun _ hm => hm, hcs⟩
    obtain ⟨ss, hss, rfl⟩ := forall₂_holds.mp
      (hcells.imp fun cell c hc => (convert_cell_eq_ok (h cell hc.1)).mp hc.2)
    exact ⟨ss, hss, rfl⟩
  · rintro ⟨ss, rfl, rfl⟩
    refine ⟨_, rfl, ?_⟩
    rw [List.map_map, List.forall₂_map_left_iff, List.forall₂_map_right_iff, List.forall₂_same]
    intro s hs
    exact convert_scalar (h (some s) (List.mem_map_of_mem hs) s rfl)

end Target

/-! ## What is declared -/

namespace Plan

variable {config : CallerConfig} {m : Method} {defaults : InterfaceMetadata}
  {out : OutputSlot} {x : Descriptor}

theorem Built.extractor_scalar (h : Built config m defaults out x) {k : ScalarKind}
    (hm : m.returns = .scalar k) : x.extractor = .scalar k := by
  have hx := h.extractor
  rw [Plan.extractor, hm] at hx
  exact (Except.ok.inj hx).symm

theorem Built.extractor_list (h : Built config m defaults out x) {k : ScalarKind}
    (hm : m.returns = .list (some k)) (hp : ∀ p ∈ m.parameters, p.type.isRowMapper = false) :
    x.extractor = .scalarList k (fetchSize config m defaults) := by
  have hx := h.extractor
  have hnone : m.parameters.findIdx? (fun p => p.type.isRowMapper) = none :=
    List.findIdx?_eq_none_iff.mpr hp
  rw [Plan.extractor, hm] at hx
  dsimp only at hx
  rw [hnone] at hx
  exact (Except.ok.inj hx).symm

end Plan

theorem exists_cells {k : ScalarKind} {vs : List Value} (h : ∀ v ∈ vs, IsCell k v) :
    ∃ cells : List (Option Scalar), vs = cells.map .ofCell ∧
      ∀ cell ∈ cells, ∀ s ∈ cell, s.kind = k.carrier := by
  induction vs with
  | nil => exact ⟨[], rfl, by simp⟩
  | cons v vs ih =>
    obtain ⟨cell, rfl, hcell⟩ := h v List.mem_cons_self
    obtain ⟨cells, rfl, hcells⟩ := ih fun w hw => h w (List.mem_cons_of_mem _ hw)
    exact ⟨cell :: cells, rfl, List.forall_mem_cons.mpr ⟨hcell, hcells⟩⟩

namespace Caller

theorem Faithful.value_of_invoke {interface : Interface} {config : CallerConfig} {c : Caller}
    (h : Faithful interface config c) {d : Driver} {method : String} {m : Method}
    (hm : interface.find? method = some m) {args : List Argument} {db : Database} {v : Value}
    (hv : (db.run (c.invoke d method args)).1.1 = .ok v) :
    ∃ out x, Plan.Built config m interface.metadata out x ∧ ∀ P : Value → Prop,
      (∀ stmt rows, (x.extractor.result d stmt x.output args rows).Yields P) → P v := by
  rw [Caller.run_invoke, h.descriptor_of_find? hm] at hv
  rcases hx : Plan.descriptor config m interface.metadata with e | x <;> rw [hx] at hv
  · cases hv
  · obtain ⟨out, hbuilt⟩ := Plan.built_of_descriptor hx
    refine ⟨out, x, hbuilt, fun P hP => ?_⟩
    dsimp only [call] at hv
    split at hv
    · exact x.yields_invoke d args hP db v hv
    · cases hv

theorem run_invokeAs {d : Driver} {c : Caller} {target : Target} {method : String}
    {args : List Argument} {db : Database} {v : Value}
    (hv : (db.run (c.invoke d method args)).1.1 = .ok v) {r : Converted} :
    (db.run (c.invokeAs d target method args)).1.1 = .ok r ↔ target.convert v = .ok r := by
  have ho : (db.run (c.invokeAs d target method args)).1.1 =
      ((db.run (c.invoke d method args)).1.1).bind fun v =>
        (target.convert v).mapError CallError.fault := rfl
  rw [ho, hv]
  change (target.convert v).mapError CallError.fault = .ok r ↔ _
  cases target.convert v <;> simp

/-- On any driver and after any session, what a method gives that declares a scalar or a
list of scalars can be had as the host type that carries their kind. -/
theorem declared_type_honoured (d : Driver) (interface : Interface) (config : CallerConfig)
    (requests : List Request) (before db : Database) {method : String} {m : Method}
    {args : List Argument} {k : ScalarKind} {t : HostType} {v : Value}
    (hm : interface.find? method = some m) (ht : t.kind = k.carrier) :
    let c := (before.run (serveAll d { interface, config } requests)).1
    let asked := fun target => (db.run (c.invokeAs d target method args)).1.1
    (db.run (c.invoke d method args)).1.1 = .ok v →
      (m.returns = .scalar k → ∃ cell : Option Scalar, v = .ofCell cell ∧
        (∀ s ∈ cell, s.kind = t.kind) ∧
        asked (.option (.scalar t)) = .ok (.ofCell cell) ∧
        ∀ r, asked (.scalar t) = .ok r ↔ ∃ s, cell = some s ∧ r = .scalar s) ∧
      (m.returns = .list (some k) → (∀ p ∈ m.parameters, p.type.isRowMapper = false) →
        ∃ cells : List (Option Scalar), v = .array (cells.map .ofCell) ∧
          (∀ cell ∈ cells, ∀ s ∈ cell, s.kind = t.kind) ∧
          asked (.list (.option (.scalar t))) = .ok (.list (cells.map .ofCell)) ∧
          ∀ r, asked (.list (.scalar t)) = .ok r ↔
            ∃ ss : List Scalar, cells = ss.map some ∧ r = .list (ss.map .scalar)) := by
  intro c asked hv
  obtain ⟨out, x, hbuilt, hgiven⟩ :=
    (faithful_session d requests before).value_of_invoke hm hv
  rw [ht]
  constructor
  · intro hret
    obtain ⟨cell, rfl, hcell⟩ := hgiven (IsCell k) fun stmt rows => by
      rw [hbuilt.extractor_scalar hret]
      exact Extractor.yields_result_scalar d stmt x.output args rows
    refine ⟨cell, rfl, hcell, ?_, fun r => ?_⟩
    · exact (run_invokeAs hv).mpr (Target.convert_option_cell (ht ▸ hcell))
    · exact (run_invokeAs hv).trans (Target.convert_cell_eq_ok (ht ▸ hcell))
  · intro hret hp
    obtain ⟨vs, rfl, hvs⟩ := hgiven (Extractor.IsCellList k) fun stmt rows => by
      rw [hbuilt.extractor_list hret hp]
      exact Extractor.yields_result_scalarList d stmt x.output args _ rows
    obtain ⟨cells, rfl, hcells⟩ := exists_cells hvs
    refine ⟨cells, rfl, hcells, ?_, fun r => ?_⟩
    · exact (run_invokeAs hv).mpr (Target.convert_list_option (ht ▸ hcells))
    · exact (run_invokeAs hv).trans (Target.convert_list_eq_ok (ht ▸ hcells))

def notes : Interface where
  name := "notes"
  methods := [{ name := "read", returns := .list (some .clob) }]

def noted : Database where
  scripts := [("\x7bcall read()\x7d", { rows := some [.ofValues [.ofText "a"], .ofValues []] })]

theorem declared_type_honoured_notes :
    let c := (noted.run
      (serveAll Scripted.driver { interface := notes, config := {} } [.plan "read"])).1
    let asked := fun target => (noted.run (c.invokeAs Scripted.driver target "read" [])).1.1
    (noted.run (c.invoke Scripted.driver "read" [])).1.1 = .ok (.array [.ofText "a", .null]) ∧
      HostType.text.kind = ScalarKind.clob.carrier ∧
      ∃ cells : List (Option Scalar),
        Value.array [.ofText "a", .null] = .array (cells.map .ofCell) ∧
        (∀ cell ∈ cells, ∀ s ∈ cell, s.kind = HostType.text.kind) ∧
        asked (.list (.option (.scalar .text))) = .ok (.list (cells.map .ofCell)) ∧
        ∀ r, asked (.list (.scalar .text)) = .ok r ↔
          ∃ ss : List Scalar, cells = ss.map some ∧ r = .list (ss.map .scalar) := by
  have h := @declared_type_honoured Scripted.driver notes {} [.plan "read"] noted noted "read" _ []
    .clob .text (.array [.ofText "a", .null]) rfl rfl rfl
  exact ⟨rfl, rfl, h.2 rfl (by simp)⟩

end Caller

end ProcCall
