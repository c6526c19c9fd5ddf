import Mathlib.Data.List.Forall2
import ProcCall.Call.Plan
import ProcCall.Proofs.Running

/-! # What a plan knows of the parameters

A plan keeps lists with an entry for every parameter: positions, names and types. Only
the parameters that are bound have a position or a name, and these are met in order.
-/

namespace ProcCall

namespace Parameter

/-- The parameters that are bound, each with its position among all. -/
def numbered (ps : List Parameter) : List (Nat × Parameter) :=
  (ps.zipIdx.map fun (p, i) => (i, p)).filter fun ip => ip.2.isBound

theorem mem_numbered {ps : List Parameter} {i : Nat} {p : Parameter} :
    (i, p) ∈ numbered ps ↔ ps[i]? = some p ∧ p.isBound = true := by
  rw [numbered, List.mem_filter, List.mem_map]
  refine and_congr_left fun _ => ?_
  constructor
  · rintro ⟨⟨q, j⟩, hq, h⟩
    cases h
    exact List.mk_mem_zipIdx_iff_getElem?.mp hq
  · intro h
    exact ⟨(p, i), List.mk_mem_zipIdx_iff_getElem?.mpr h, rfl⟩

theorem numbered_cons (p : Parameter) (ps : List Parameter) :
    numbered (p :: ps) =
      (if p.isBound then [(0, p)] else []) ++ (numbered ps).map (Prod.map (· + 1) id) := by
  have hs : (ps.zipIdx 1).map (fun (p, i) => (i, p)) =
      (ps.zipIdx.map fun (p, i) => (i, p)).map (Prod.map (· + 1) id) := by
    rw [List.zipIdx_succ]
    simp [Function.comp_def]
  rw [numbered, List.zipIdx_cons, List.map_cons, Nat.zero_add, hs, List.filter_cons,
    List.filter_map, numbered]
  cases p.isBound <;> rfl

theorem numbered_cons_bound {p : Parameter} (h : p.isBound = true) (ps : List Parameter) :
    numbered (p :: ps) = (0, p) :: (numbered ps).map (Prod.map (· + 1) id) := by
  rw [numbered_cons, if_pos h, List.singleton_append]

theorem numbered_cons_unbound {p : Parameter} (h : p.isBound = false) (ps : List Parameter) :
    numbered (p :: ps) = (numbered ps).map (Prod.map (· + 1) id) := by
  rw [numbered_cons, if_neg (by simp [h]), List.nil_append]

theorem numbered_take (ps : List Parameter) (n : Nat) :
    numbered (ps.take n) = (numbered ps).filter (·.1 < n) := by
  induction ps generalizing n with
  | nil => simp [numbered]
  | cons p ps ih =>
    cases n with
    | zero => simp [numbered]
    | succ n =>
      have hshift : (fun ip : Nat × Parameter => decide (ip.1 < n + 1)) ∘ Prod.map (· + 1) id =
          fun ip => decide (ip.1 < n) := by
        funext ip
        simp
      rw [List.take_succ_cons, numbered_cons, numbered_cons, ih, List.filter_append,
        List.filter_map, hshift]
      cases p.isBound <;> rfl

theorem pairwise_numbered (ps : List Parameter) :
    ((numbered ps).map Prod.fst).Pairwise (· < ·) := by
  induction ps with
  | nil => exact .nil
  | cons p ps ih =>
    have hs : (((numbered ps).map (Prod.map (· + 1) id)).map Prod.fst).Pairwise (· < ·) := by
      rw [List.map_map]
      exact List.pairwise_map.mpr ((List.pairwise_map.mp ih).imp Nat.succ_lt_succ)
    by_cases hp : p.isBound = true
    · rw [numbered_cons_bound hp]
      refine List.pairwise_cons.mpr ⟨?_, hs⟩
      intro i hi
      simp only [List.map_map, List.mem_map] at hi
      obtain ⟨jp, _, rfl⟩ := hi
      exact Nat.succ_pos jp.1
    · rw [numbered_cons_unbound (Bool.eq_false_iff.mpr hp)]
      exact hs

end Parameter

namespace Plan

open Parameter

/-! ## Positions -/

theorem map_place {ps : List Parameter} {positions : List Nat}
    (h : positions.length = (numbered ps).length) :
    (numbered ps).map (fun ip => (place ps positions)[ip.1]?.join) = positions.map some := by
  induction ps generalizing positions with
  | nil =>
    obtain rfl := List.length_eq_zero_iff.mp h
    rfl
  | cons p ps ih =>
    by_cases hp : p.isBound = true
    · rw [numbered_cons_bound hp, List.length_cons, List.length_map] at h
      obtain ⟨q, positions, rfl⟩ := List.exists_cons_of_length_eq_add_one h
      rw [numbered_cons_bound hp, place, if_pos hp, List.map_cons, List.map_map, List.map_cons,
        ← ih (Nat.add_right_cancel h)]
      rfl
    · rw [numbered_cons_unbound (Bool.eq_false_iff.mpr hp), List.length_map] at h
      rw [numbered_cons_unbound (Bool.eq_false_iff.mpr hp), place, if_neg hp, List.map_map, ← ih h]
      rfl

theorem place_unbound {ps : List Parameter} {positions : List Nat} {i : Nat}
    (h : ∀ p, ps[i]? = some p → p.isBound = false) : (place ps positions)[i]?.join = none := by
  induction ps generalizing positions i with
  | nil => rfl
  | cons p ps ih =>
    rw [place]
    cases i with
    | zero =>
      rw [h p rfl]
      rfl
    | succ i =>
      split
      · exact ih h
      · exact ih h

theorem mem_of_place {ps : List Parameter} {positions : List Nat} {i q : Nat}
    (h : (place ps positions)[i]?.join = some q) : q ∈ positions := by
  induction ps generalizing positions i with
  | nil => cases h
  | cons p ps ih =>
    rw [place] at h
    split at h
    · cases i with
      | zero =>
        rw [List.getElem?_cons_zero, Option.join_some] at h
        exact List.mem_of_head? h
      | succ i => exact List.mem_of_mem_tail (ih h)
    · cases i with
      | zero => cases h
      | succ i => exact ih h

/-! ## Names and types -/

variable {config : CallerConfig} {m : Method}

theorem namesFrom_cons {i : Nat} {p : Parameter} {ps : List Parameter}
    {names : List (Option String)} (h : namesFrom config m i (p :: ps) = .ok names) :
    ∃ name rest, names = name :: rest ∧ namesFrom config m (i + 1) ps = .ok rest ∧
      name.isSome = p.isBound ∧ ∀ s, name = some s → parameterName config m i p = .ok s := by
  rw [namesFrom] at h
  by_cases hp : p.isBound = true
  · rw [if_pos hp] at h
    obtain ⟨_, hname, h⟩ := bind_eq_ok.mp h
    obtain ⟨s, hs, rfl⟩ := map_eq_ok.mp hname
    obtain ⟨rest, hrest, h⟩ := bind_eq_ok.mp h
    refine ⟨some s, rest, (Except.ok.inj h).symm, hrest, hp.symm, ?_⟩
    rintro _ ⟨⟩
    exact hs
  · rw [if_neg hp] at h
    obtain ⟨_, ⟨⟩, h⟩ := bind_eq_ok.mp h
    obtain ⟨rest, hrest, h⟩ := bind_eq_ok.mp h
    exact ⟨none, rest, (Except.ok.inj h).symm, hrest, (Bool.eq_false_iff.mpr hp).symm, nofun⟩

theorem namesFrom_getElem? {i j : Nat} {ps : List Parameter} {names : List (Option String)}
    (h : namesFrom config m i ps = .ok names) :
    names[j]?.join.isSome = (ps[j]?.any Parameter.isBound) := by
  induction ps generalizing i j names with
  | nil =>
    obtain rfl : [] = names := Except.ok.inj h
    rfl
  | cons p ps ih =>
    obtain ⟨name, rest, rfl, hrest, hbound, _⟩ := namesFrom_cons h
    cases j with
    | zero => exact hbound
    | succ j => exact ih hrest

theorem parameterName_of_namesFrom {i j : Nat} {ps : List Parameter}
    {names : List (Option String)} (h : namesFrom config m i ps = .ok names) {s : String}
    (hs : names[j]?.join = some s) :
    ∃ p, ps[j]? = some p ∧ p.isBound = true ∧ parameterName config m (i + j) p = .ok s := by
  induction ps generalizing i j names with
  | nil =>
    obtain rfl : [] = names := Except.ok.inj h
    cases hs
  | cons p ps ih =>
    obtain ⟨name, rest, rfl, hrest, hbound, hname⟩ := namesFrom_cons h
    cases j with
    | zero =>
      have hs : name = some s := hs
      exact ⟨p, rfl, by rw [← hbound, hs]; rfl, hname s hs⟩
    | succ j =>
      have hj := ih hrest hs
      rwa [Nat.add_right_comm, Nat.add_assoc] at hj

theorem mapM_getElem? {α β ε : Type} {f : α → Except ε β} {xs : List α} {ys : List β}
    (h : xs.mapM f = .ok ys) {i : Nat} {x : α} (hx : xs[i]? = some x) :
    ∃ y, f x = .ok y ∧ ys[i]? = some y := by
  induction xs generalizing ys i with
  | nil => cases hx
  | cons a xs ih =>
    rw [List.mapM_cons] at h
    obtain ⟨b, hb, h⟩ := bind_eq_ok.mp h
    obtain ⟨bs, hbs, h⟩ := bind_eq_ok.mp h
    obtain rfl : b :: bs = ys := Except.ok.inj h
    cases i with
    | zero =>
      obtain rfl := Option.some.inj hx
      exact ⟨b, hb, rfl⟩
    | succ i => exact ih hbs hx

theorem mapM_eq_self {α ε : Type} {f : α → Except ε α} {xs : List α}
    (h : ∀ x ∈ xs, f x = .ok x) : xs.mapM f = .ok xs := by
  induction xs with
  | nil => rfl
  | cons x xs ih =>
    obtain ⟨hx, hxs⟩ := List.forall_mem_cons.mp h
    rw [List.mapM_cons, hx, ih hxs]
    rfl

theorem eq_of_mapM {α ε : Type} {f : α → Except ε α} (hf : ∀ x y, f x = .ok y → y = x)
    {xs ys : List α} (h : xs.mapM f = .ok ys) : ys = xs := by
  induction xs generalizing ys with
  | nil => exact (Except.ok.inj h).symm
  | cons x xs ih =>
    rw [List.mapM_cons] at h
    obtain ⟨y, hy, h⟩ := bind_eq_ok.mp h
    obtain ⟨rest, hrest, h⟩ := bind_eq_ok.mp h
    obtain rfl : y :: rest = ys := Except.ok.inj h
    rw [hf x y hy, ih hrest]

/-! ## Arrays -/

def takesArray (ip : Nat × Parameter) : Bool := ip.2.type.isArray

theorem arraySlotsOf_congr {config' : CallerConfig} {m' : Method}
    (h : ∀ i p, elementTypeName config m i p = elementTypeName config' m' i p)
    (ips : List (Nat × Parameter)) : arraySlotsOf config m ips = arraySlotsOf config' m' ips := by
  induction ips with
  | nil => rfl
  | cons ip ips ih => rw [arraySlotsOf, arraySlotsOf, ih, h]

theorem forall₂_arraySlotsOf {ips : List (Nat × Parameter)} {slots : List ArraySlot}
    (h : arraySlotsOf config m ips = .ok slots) :
    List.Forall₂ (fun ip s => s.argument = ip.1 ∧
        elementTypeName config m ip.1 ip.2 = .ok s.typeName) (ips.filter takesArray) slots := by
  induction ips generalizing slots with
  | nil =>
    obtain rfl : [] = slots := Except.ok.inj h
    exact .nil
  | cons ip ips ih =>
    rw [arraySlotsOf] at h
    by_cases hp : ip.2.type.isArray = true
    · rw [if_pos hp] at h
      obtain ⟨typeName, hname, h⟩ := bind_eq_ok.mp h
      obtain ⟨rest, hrest, h⟩ := bind_eq_ok.mp h
      obtain rfl : ⟨ip.1, typeName⟩ :: rest = slots := Except.ok.inj h
      rw [List.filter_cons_of_pos (p := takesArray) hp]
      exact .cons ⟨rfl, hname⟩ (ih hrest)
    · rw [if_neg hp] at h
      rw [List.filter_cons_of_neg (p := takesArray) hp]
      exact ih h

theorem arguments_arraySlotsOf {ips : List (Nat × Parameter)} {slots : List ArraySlot}
    (h : arraySlotsOf config m ips = .ok slots) :
    slots.map ArraySlot.argument = (ips.filter takesArray).map Prod.fst := by
  have hmap : List.Forall₂ (· = ·) ((ips.filter takesArray).map Prod.fst)
      (slots.map ArraySlot.argument) := by
    rw [List.forall₂_map_left_iff, List.forall₂_map_right_iff]
    exact (forall₂_arraySlotsOf h).imp fun ip s hs => hs.1.symm
  rw [List.forall₂_eq_eq_eq] at hmap
  exact hmap.symm

theorem pairwise_arraySlots {slots : List ArraySlot} (h : arraySlots config m = .ok slots) :
    (slots.map ArraySlot.argument).Pairwise (· < ·) := by
  rw [arguments_arraySlotsOf h]
  exact (pairwise_numbered m.parameters).sublist (List.filter_sublist.map Prod.fst)

theorem mem_arguments_arraySlots {slots : List ArraySlot} (h : arraySlots config m = .ok slots)
    {i : Nat} {p : Parameter} (hp : (i, p) ∈ m.valueParameters) :
    i ∈ slots.map ArraySlot.argument ↔ p.type.isArray = true := by
  rw [arguments_arraySlotsOf h, List.mem_map]
  constructor
  · rintro ⟨⟨j, q⟩, hq, rfl⟩
    obtain ⟨hm, ha⟩ := List.mem_filter.mp hq
    obtain rfl : q = p :=
      Option.some.inj ((mem_numbered.mp hm).1.symm.trans (mem_numbered.mp hp).1)
    exact ha
  · intro ha
    exact ⟨(i, p), List.mem_filter.mpr ⟨hp, ha⟩, rfl⟩

end Plan

end ProcCall
