import ProcCall.Proofs.Number.Numerals
import ProcCall.Proofs.Value.Coercion

/-! # Exact numbers

Integers of all widths and decimals carry whole numbers exactly. A whole number that is
converted from one of these kinds to the next arrives as if it had been converted at once,
and gets lost only at a kind that it does not fit in.
-/

namespace ProcCall

def ScalarKind.isExact : ScalarKind → Bool
  | int _ | decimal => true
  | _ => false

namespace Scalar

inductive Carries (n : Int) : Scalar → Prop
  | int {w : IntWidth} (k : Integer w) (hk : k.val = n) : Carries n (.int w k)
  | decimal (h : IntWidth.w64.Holds n) : Carries n (.decimal (intText n))

/-- The scalar of an exact kind that carries a whole number, if the number fits. -/
def ofExact? (n : Int) : ScalarKind → Option Scalar
  | .int w => (Integer.ofInt? w n).map (.int w)
  | .decimal => some (.decimal (intText n))
  | _ => none

variable {n : Int} {s r : Scalar} {k : ScalarKind} {ks : List ScalarKind}

theorem readInteger?_intText (h : IntWidth.w64.Holds n) :
    readInteger? (intText n) = some ⟨n, h⟩ := by
  rw [readInteger?, intText, String.toList_ofList, Numeral.readInt_writeInt, Option.bind_some]
  exact Integer.ofInt?_eq_some_iff.mpr rfl

theorem Carries.holds (h : Carries n s) : IntWidth.w64.Holds n := by
  cases h with
  | int k hk => exact hk ▸ k.property.widen
  | decimal h => exact h

theorem Carries.asInteger? (h : Carries n s) : s.asInteger? = some ⟨n, h.holds⟩ := by
  cases h with
  | int k hk => cases hk; rfl
  | decimal h => exact readInteger?_intText h

theorem Carries.coerce_eq (h : Carries n s) (hk : k.isExact = true) :
    s.coerce k = ofExact? n k := by
  cases k with
  | int w =>
    cases h with
    | int i hi => cases hi; exact coerce_int i
    | decimal h =>
      rw [coerce, if_neg (by simp [kind]), convert, readInteger?_intText h, Option.bind_some]
      rfl
  | decimal =>
    cases h with
    | int i hi => cases hi; rfl
    | decimal h => rfl
  | _ => cases hk

theorem carries_of_ofExact? (h : IntWidth.w64.Holds n) (hr : ofExact? n k = some r) :
    Carries n r := by
  unfold ofExact? at hr
  split at hr
  · obtain ⟨i, hi, rfl⟩ := Option.map_eq_some_iff.mp hr
    exact .int i (Integer.ofInt?_eq_some_iff.mp hi)
  · cases hr
    exact .decimal h
  · cases hr

theorem isSome_ofExact? (hk : k.isExact = true) :
    (ofExact? n k).isSome = true ↔ ∀ w, k = .int w → w.Holds n := by
  cases k with
  | int w =>
    rw [ofExact?, Option.isSome_map, Integer.isSome_ofInt?]
    constructor
    · rintro h _ ⟨⟩
      exact h
    · exact fun h => h w rfl
  | decimal => exact iff_of_true rfl nofun
  | _ => cases hk

theorem Carries.foldlM_coerce_eq_some (hs : Carries n s)
    (hks : ∀ j ∈ ks ++ [k], j.isExact = true) :
    (ks ++ [k]).foldlM coerce s = some r ↔
      (∀ w, .int w ∈ ks ++ [k] → w.Holds n) ∧ ofExact? n k = some r := by
  induction ks generalizing s with
  | nil =>
    have hk := hks k List.mem_cons_self
    rw [List.nil_append, List.foldlM_cons, hs.coerce_eq hk]
    simp only [List.foldlM_nil, bind_pure]
    refine ⟨fun h => ⟨fun w hw => ?_, h⟩, And.right⟩
    exact (isSome_ofExact? hk).mp (by rw [h]; rfl) w (List.mem_singleton.mp hw).symm
  | cons j ks ih =>
    obtain ⟨hj, hks⟩ := List.forall_mem_cons.mp hks
    rw [List.cons_append, List.foldlM_cons, hs.coerce_eq hj]
    constructor
    · intro h
      obtain ⟨s', hs', h⟩ := Option.bind_eq_some_iff.mp h
      obtain ⟨hholds, hr⟩ := (ih (carries_of_ofExact? hs.holds hs') hks).mp h
      refine ⟨fun w hw => ?_, hr⟩
      rcases List.mem_cons.mp hw with rfl | hw
      · exact (isSome_ofExact? hj).mp (by rw [hs']; rfl) w rfl
      · exact hholds w hw
    · rintro ⟨hholds, hr⟩
      have hfits := (isSome_ofExact? hj).mpr fun w hw => hholds w (hw ▸ List.mem_cons_self)
      obtain ⟨s', hs'⟩ := Option.isSome_iff_exists.mp hfits
      refine Option.bind_eq_some_iff.mpr ⟨s', hs', ?_⟩
      exact (ih (carries_of_ofExact? hs.holds hs') hks).mpr
        ⟨fun w hw => hholds w (List.mem_cons_of_mem _ hw), hr⟩

end Scalar

namespace Value

theorem foldlM_coerce_scalar (ks : List ScalarKind) (s : Scalar) :
    ks.foldlM coerce (scalar s) = (ks.foldlM Scalar.coerce s).map scalar := by
  induction ks generalizing s with
  | nil => rfl
  | cons k ks ih =>
    rw [List.foldlM_cons, List.foldlM_cons, coerce]
    cases s.coerce k with
    | none => rfl
    | some r => exact ih r

variable {w : IntWidth} {path : List ScalarKind} {last : ScalarKind}

/-- An integer that is converted from one exact kind to the next comes through exactly if it
is in the range of every integer kind on the way, and then it is what it would be had it been
converted at once. Through a decimal text and back every integer comes unchanged. -/
theorem conversion_path_independent (n : Integer w)
    (hexact : ∀ k ∈ path ++ [last], k.isExact = true) :
    let v := scalar (.int w n)
    let converted := (path ++ [last]).foldlM coerce v
    (converted.isSome = true ↔ ∀ w', .int w' ∈ path ++ [last] → w'.Holds n.val) ∧
    (∀ r, converted = some r →
      v.coerce last = some r ∧ r.asInteger? = some ⟨n.val, n.property.widen⟩) ∧
    [.decimal, .int w].foldlM coerce v = some v := by
  intro v converted
  have hn : Scalar.Carries n.val (.int w n) := .int n rfl
  have hlast := hexact last List.mem_concat_self
  have hconverted : converted = _ := foldlM_coerce_scalar (path ++ [last]) (.int w n)
  refine ⟨?_, fun r hr => ?_, ?_⟩
  · rw [hconverted, Option.isSome_map, Option.isSome_iff_exists]
    constructor
    · rintro ⟨s, hs⟩
      exact ((hn.foldlM_coerce_eq_some hexact).mp hs).1
    · intro hholds
      have hfits := (Scalar.isSome_ofExact? hlast).mpr fun w' hw =>
        hholds w' (hw ▸ List.mem_concat_self)
      obtain ⟨s, hs⟩ := Option.isSome_iff_exists.mp hfits
      exact ⟨s, (hn.foldlM_coerce_eq_some hexact).mpr ⟨hholds, hs⟩⟩
  · obtain ⟨s, hs, rfl⟩ := Option.map_eq_some_iff.mp (hconverted.symm.trans hr)
    obtain ⟨_, hs⟩ := (hn.foldlM_coerce_eq_some hexact).mp hs
    have hcarries := Scalar.carries_of_ofExact? hn.holds hs
    refine ⟨?_, hcarries.asInteger?⟩
    change (Scalar.coerce _ last).map scalar = _
    rw [hn.coerce_eq hlast, hs, Option.map_some]
  · have hexact : ∀ k ∈ [ScalarKind.decimal] ++ [.int w], k.isExact = true := by
      simp [ScalarKind.isExact]
    have hback : [.decimal, .int w].foldlM Scalar.coerce (.int w n) = some (.int w n) :=
      (hn.foldlM_coerce_eq_some hexact).mpr (by simp [Scalar.ofExact?, n.property])
    rw [foldlM_coerce_scalar, hback, Option.map_some]

/-- The least integer of 64 bits. Without its sign it would be too large by one. -/
def least : Integer .w64 := ⟨-9223372036854775808, by decide⟩

theorem conversion_path_independent_least :
    let v := scalar (.int .w64 least)
    let path : List ScalarKind := [.decimal, .int .w64]
    let last : ScalarKind := .decimal
    (∀ k ∈ path ++ [last], k.isExact = true) ∧
      (∀ w, .int w ∈ path ++ [last] → w.Holds least.val) ∧
      ∃ r, (path ++ [last]).foldlM coerce v = some r ∧ v.coerce last = some r ∧
        r.asInteger? = some least := by
  intro v path last
  have hexact : ∀ k ∈ path ++ [last], k.isExact = true := by decide
  have hholds : ∀ w, .int w ∈ path ++ [last] → w.Holds least.val := by
    intro w hw
    obtain rfl : w = .w64 := by simpa [path, last] using hw
    exact least.property
  obtain ⟨hfits, hdirect, _⟩ := conversion_path_independent least hexact
  obtain ⟨r, hr⟩ := Option.isSome_iff_exists.mp (hfits.mpr hholds)
  exact ⟨hexact, hholds, r, hr, hdirect r hr⟩

end Value

end ProcCall
