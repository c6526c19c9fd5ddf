import Mathlib.Data.List.SplitBy
import ProcCall.Unicode.Casing
import ProcCall.Unicode.Cluster

/-! # Case and clusters of ASCII texts

In an ASCII text case is changed character by character, and apart from the two that end
a line together every character stands alone.
-/

namespace ProcCall.Unicode

/-- What holds of the code points below 128 holds of every ASCII character. -/
theorem forall_ascii {p : Char → Prop} (h : ∀ n < 128, p (Char.ofNat n)) {c : Char}
    (hc : isAscii c = true) : p c := by
  have hchar := h c.toNat (of_decide_eq_true hc)
  rwa [Char.ofNat_toNat] at hchar

variable {s : List Char}

theorem lowerAfter_ascii (h : ∀ c ∈ s, isAscii c = true) (after : Bool) :
    lowerAfter after s = s.map Char.toLower := by
  induction s generalizing after with
  | nil => rfl
  | cons c cs ih =>
    obtain ⟨hc, hcs⟩ := List.forall_mem_cons.mp h
    have hsigma : c ≠ 'Σ' := by
      rintro rfl
      exact absurd hc (by decide)
    rw [lowerAfter, if_neg hsigma, lowerChar, if_pos hc, ih hcs]
    rfl

theorem lower_ascii (h : ∀ c ∈ s, isAscii c = true) : lower s = s.map Char.toLower :=
  lowerAfter_ascii h false

theorem upper_ascii (h : ∀ c ∈ s, isAscii c = true) : upper s = s.map Char.toUpper := by
  induction s with
  | nil => rfl
  | cons c cs ih =>
    obtain ⟨hc, hcs⟩ := List.forall_mem_cons.mp h
    rw [upper, List.flatMap_cons, upperChar, if_pos hc, List.map_cons, ← ih hcs]
    rfl

theorem attaches_ascii {a b : Char} (ha : isAscii a = true) (hb : isAscii b = true)
    (hne : a ≠ '\r') : attaches a b = false := by
  have hlow : ∀ {c}, isAscii c = true → ¬ 128 ≤ c.toNat :=
    fun h => Nat.not_le.mpr (of_decide_eq_true h)
  have hextend : isExtending b = false := by rw [isExtending, decide_eq_false (hlow hb)]; rfl
  have hprepend : isPrepending a = false := by rw [isPrepending, decide_eq_false (hlow ha)]; rfl
  rw [attaches, if_neg fun h => hne h.1, hextend, hprepend, Bool.or_false, Bool.and_false]

theorem clusters_ascii (h : ∀ c ∈ s, isAscii c = true ∧ c ≠ '\r') :
    clusters s = s.map fun c => [c] := by
  refine List.splitBy_eq_iff.mpr ⟨?_, ?_, ?_, ?_⟩
  · simp [List.flatten_eq_flatMap, List.flatMap_map]
  · simp
  · intro g hg
    obtain ⟨c, -, rfl⟩ := List.mem_map.mp hg
    exact List.isChain_singleton c
  · rw [List.isChain_map]
    refine (List.pairwise_of_forall_mem_list fun a ha b hb => ?_).isChain
    exact ⟨List.cons_ne_nil a [], List.cons_ne_nil b [],
      attaches_ascii (h a ha).1 (h b hb).1 (h a ha).2⟩

end ProcCall.Unicode
