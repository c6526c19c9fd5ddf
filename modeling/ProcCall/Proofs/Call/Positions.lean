import ProcCall.Call.Placeholder

/-! # Positions of the inputs

The inputs fill the placeholders in order. With an output among them they fill those
before it and those after it, and only those after it are moved.
-/

namespace ProcCall

theorem length_inputPositions (arity : Nat) (out : Option Nat) :
    (inputPositions arity out).length = arity := by
  rw [inputPositions, List.length_map, List.length_range]

theorem inputPositions_none (arity : Nat) : inputPositions arity none = List.range' 1 arity := by
  rw [List.range'_eq_map_range]
  exact List.map_congr_left fun i _ => Nat.add_comm i 1

theorem inputPositions_some (before after : Nat) :
    inputPositions (before + after) (some (before + 1)) =
      List.range' 1 before ++ List.range' (before + 2) after := by
  have hs : List.range (before + after) = List.range before ++ List.range' before after := by
    rw [List.range_eq_range', List.range_eq_range', ← List.range'_append_1, Nat.zero_add]
  rw [inputPositions, hs, List.map_append, List.range'_eq_map_range, List.range'_eq_map_range,
    List.map_map, List.range'_eq_map_range]
  congr 1
  · refine List.map_congr_left fun i hi => ?_
    have := List.mem_range.mp hi
    dsimp only
    rw [if_neg (by omega), Nat.add_comm]
  · refine List.map_congr_left fun i _ => ?_
    dsimp only [Function.comp_apply]
    rw [if_pos (by omega), Nat.add_right_comm]

theorem pos_of_mem_inputPositions {arity q : Nat} {out : Option Nat}
    (h : q ∈ inputPositions arity out) : 0 < q := by
  obtain ⟨i, _, rfl⟩ := List.mem_map.mp h
  cases out with
  | none => exact Nat.succ_pos i
  | some o => dsimp only; split <;> exact Nat.succ_pos _

theorem output_notMem_inputPositions (arity o : Nat) : o ∉ inputPositions arity (some o) := by
  intro h
  obtain ⟨i, _, hi⟩ := List.mem_map.mp h
  dsimp only at hi
  split at hi <;> omega

theorem pairwise_inputPositions (arity : Nat) (out : Option Nat) :
    (inputPositions arity out).Pairwise (· < ·) := by
  refine List.pairwise_map.mpr (List.pairwise_lt_range.imp ?_)
  intro i j hij
  cases out with
  | none => exact Nat.succ_lt_succ hij
  | some o => dsimp only; split <;> split <;> omega

/-- The output and the inputs fill the placeholders, each once. -/
theorem perm_inputPositions {arity : Nat} {out : Option Nat}
    (h : ∀ o ∈ out, 0 < o ∧ o ≤ arity + 1) :
    (out.toList ++ inputPositions arity out).Perm
      (List.range' 1 (arity + out.toList.length)) := by
  cases out with
  | none => exact .of_eq (inputPositions_none arity)
  | some o =>
    obtain ⟨hpos, hle⟩ := h o rfl
    obtain ⟨before, rfl⟩ := Nat.exists_eq_succ_of_ne_zero (Nat.ne_of_gt hpos)
    obtain ⟨after, rfl⟩ := Nat.exists_eq_add_of_le (Nat.le_of_succ_le_succ hle)
    rw [inputPositions_some, Option.toList_some, List.length_singleton, Nat.add_assoc,
      ← List.range'_append_1, List.range'_succ, Nat.add_comm 1 before, List.singleton_append]
    exact List.perm_middle.symm

section Output

variable {arity out : Nat}

theorem mem_inputPositions_some {q : Nat} (h : 1 ≤ out ∧ out ≤ arity + 1) :
    q ∈ inputPositions arity (some out) ↔ (1 ≤ q ∧ q ≤ arity + 1) ∧ q ≠ out := by
  have hperm : (out :: inputPositions arity (some out)).Perm (List.range' 1 (arity + 1)) := by
    refine @perm_inputPositions arity (some out) ?_
    rintro _ ⟨⟩
    exact h
  have hmem : q = out ∨ q ∈ inputPositions arity (some out) ↔ 1 ≤ q ∧ q ≤ arity + 1 := by
    rw [← List.mem_cons, hperm.mem_iff, List.mem_range'_1, Nat.add_comm 1, Nat.lt_succ_iff]
  rw [← hmem]
  constructor
  · intro hq
    refine ⟨.inr hq, ?_⟩
    rintro rfl
    exact output_notMem_inputPositions arity q hq
  · rintro ⟨rfl | hq, hne⟩
    · exact absurd rfl hne
    · exact hq

theorem inputPositions_unmoved_iff (h : 1 ≤ out ∧ out ≤ arity + 1) :
    inputPositions arity (some out) = inputPositions arity none ↔
      arity = 0 ∨ out = arity + 1 := by
  obtain ⟨hpos, hle⟩ := h
  obtain ⟨before, rfl⟩ := Nat.exists_eq_succ_of_ne_zero (Nat.ne_of_gt hpos)
  obtain ⟨after, rfl⟩ := Nat.exists_eq_add_of_le (Nat.le_of_succ_le_succ hle)
  rw [inputPositions_some, inputPositions_none, ← List.range'_append_1,
    List.append_cancel_left_eq]
  cases after with
  | zero => simp
  | succ n =>
    rw [List.range'_succ, List.range'_succ, List.cons.injEq]
    omega

end Output

/-- The inputs take, in order and each once, the placeholders that the output leaves. The
output moves one of them unless it comes behind them all. -/
theorem inputs_around_output (arity out : Nat) (h : 1 ≤ out ∧ out ≤ arity + 1) :
    (inputPositions arity (some out)).Pairwise (· < ·) ∧
    (inputPositions arity (some out)).Nodup ∧
    (inputPositions arity (some out)).length = arity ∧
    (∀ q, q ∈ inputPositions arity (some out) ↔ (1 ≤ q ∧ q ≤ arity + 1) ∧ q ≠ out) ∧
    inputPositions arity none = List.range' 1 arity ∧
    (inputPositions arity (some out) = inputPositions arity none ↔
      arity = 0 ∨ out = arity + 1) := by
  have hsorted := pairwise_inputPositions arity (some out)
  exact ⟨hsorted, hsorted.imp Nat.ne_of_lt, length_inputPositions arity _,
    fun q => mem_inputPositions_some h, inputPositions_none arity, inputPositions_unmoved_iff h⟩

theorem inputs_around_output_middle :
    (1 ≤ 2 ∧ 2 ≤ 3 + 1) ∧
    (∀ q, q ∈ inputPositions 3 (some 2) ↔ (1 ≤ q ∧ q ≤ 3 + 1) ∧ q ≠ 2) ∧
    inputPositions 3 (some 2) ≠ inputPositions 3 none := by
  have h : 1 ≤ 2 ∧ 2 ≤ 3 + 1 := by decide
  obtain ⟨-, -, -, hmem, -, hsame⟩ := inputs_around_output 3 2 h
  exact ⟨h, hmem, fun heq => absurd (hsame.mp heq) (by decide)⟩

end ProcCall
