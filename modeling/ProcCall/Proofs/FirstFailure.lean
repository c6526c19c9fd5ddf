import Mathlib.Data.List.Basic
import ProcCall.Proofs.Running

/-! # The first failure

Checks that are made one after the other fail with the error of the first that fails. The
lemmas below put the checks of a sequence of steps together from those of each step.
-/

namespace ProcCall

variable {α β γ ε : Type} {fails : α → ε → Prop} {xs ys : List α}

/-- The error of the first in the list that fails. -/
def FirstFailure (fails : α → ε → Prop) (xs : List α) (e : ε) : Prop :=
  ∃ before x after, xs = before ++ x :: after ∧ fails x e ∧ ∀ y ∈ before, ∀ e', ¬ fails y e'

theorem firstFailure_cons {x : α} {e : ε} : FirstFailure fails (x :: xs) e ↔
    fails x e ∨ (∀ e', ¬ fails x e') ∧ FirstFailure fails xs e := by
  constructor
  · rintro ⟨before, y, after, hxs, hy, hbefore⟩
    cases before with
    | nil =>
      obtain ⟨rfl, rfl⟩ := List.cons.inj hxs
      exact .inl hy
    | cons z before =>
      obtain ⟨rfl, rfl⟩ := List.cons.inj hxs
      obtain ⟨hx, hbefore⟩ := List.forall_mem_cons.mp hbefore
      exact .inr ⟨hx, before, y, after, rfl, hy, hbefore⟩
  · rintro (hx | ⟨hx, before, y, after, rfl, hy, hbefore⟩)
    · exact ⟨[], x, xs, rfl, hx, nofun⟩
    · exact ⟨x :: before, y, after, rfl, hy, List.forall_mem_cons.mpr ⟨hx, hbefore⟩⟩

theorem not_firstFailure_nil {e : ε} : ¬ FirstFailure fails [] e := by
  rintro ⟨before, x, after, h, _⟩
  exact absurd h (by simp)

theorem exists_firstFailure :
    (∃ e, FirstFailure fails xs e) ↔ ∃ x ∈ xs, ∃ e, fails x e := by
  induction xs with
  | nil => simp [not_firstFailure_nil]
  | cons x xs ih =>
    rw [List.exists_mem_cons_iff, ← ih]
    constructor
    · rintro ⟨e, h⟩
      rcases firstFailure_cons.mp h with hx | ⟨_, hxs⟩
      · exact .inl ⟨e, hx⟩
      · exact .inr ⟨e, hxs⟩
    · rintro (⟨e, hx⟩ | ⟨e, hxs⟩)
      · exact ⟨e, firstFailure_cons.mpr (.inl hx)⟩
      · by_cases hx : ∃ e', fails x e'
        · exact hx.imp fun _ h => firstFailure_cons.mpr (.inl h)
        · exact ⟨e, firstFailure_cons.mpr (.inr ⟨not_exists.mp hx, hxs⟩)⟩

theorem firstFailure_append {e : ε} : FirstFailure fails (xs ++ ys) e ↔
    FirstFailure fails xs e ∨ (∀ e', ¬ FirstFailure fails xs e') ∧ FirstFailure fails ys e := by
  induction xs with
  | nil => simp [not_firstFailure_nil]
  | cons x xs ih =>
    simp only [List.cons_append, firstFailure_cons, ih]
    grind

theorem firstFailure_map {f : β → α} {zs : List β} {e : ε} :
    FirstFailure fails (zs.map f) e ↔ FirstFailure (fun z => fails (f z)) zs e := by
  induction zs with
  | nil => simp [not_firstFailure_nil]
  | cons z zs ih => rw [List.map_cons, firstFailure_cons, firstFailure_cons, ih]

/-! ## Steps in sequence -/

/-- The outcome is an error exactly if one in the list fails, and then it is the error of the
first that does. -/
def FailsAtFirst (fails : α → ε → Prop) (xs : List α) (o : Except ε β) : Prop :=
  ∀ e, o = .error e ↔ FirstFailure fails xs e

theorem failsAtFirst_ok (y : β) : FailsAtFirst fails [] (.ok y) :=
  fun _ => ⟨nofun, fun h => absurd h not_firstFailure_nil⟩

theorem failsAtFirst_head {x : α} {o : Except ε β} (hx : ∃ e, fails x e)
    (h : ∀ e, o = .error e ↔ fails x e) : FailsAtFirst fails (x :: xs) o := by
  intro e
  rw [h e, firstFailure_cons, or_iff_left fun hn => hx.elim hn.1]

theorem failsAtFirst_tail {x : α} {o : Except ε β} (hx : ∀ e, ¬ fails x e)
    (h : FailsAtFirst fails xs o) : FailsAtFirst fails (x :: xs) o := by
  intro e
  rw [h e, firstFailure_cons, or_iff_right (hx e), and_iff_right hx]

theorem failsAtFirst_singleton {x : α} {o : Except ε β} (h : ∀ e, o = .error e ↔ fails x e) :
    FailsAtFirst fails [x] o := by
  intro e
  rw [h e, firstFailure_cons, or_iff_left fun hn => not_firstFailure_nil hn.2]

/-- What comes after a step is checked if that step does not fail. -/
theorem FailsAtFirst.bind {a : Except ε β} {f : β → Except ε γ} (ha : FailsAtFirst fails xs a)
    (hf : ∀ y, a = .ok y → FailsAtFirst fails ys (f y)) :
    FailsAtFirst fails (xs ++ ys) (a >>= f) := by
  intro e
  rw [firstFailure_append]
  rcases ha' : a with e₀ | y
  · have hfirst := (ha e₀).mp ha'
    rw [or_iff_left fun h => h.1 e₀ hfirst, ← ha e, ha']
    exact ⟨fun h => congrArg _ (Except.error.inj h), fun h => congrArg _ (Except.error.inj h)⟩
  · have hnone : ∀ e', ¬ FirstFailure fails xs e' := by
      intro e' h
      cases ha'.symm.trans ((ha e').mpr h)
    rw [or_iff_right (hnone e), and_iff_right hnone]
    exact hf y ha' e

theorem FailsAtFirst.bind_ok {o : Except ε β} (h : FailsAtFirst fails xs o) (g : β → γ) :
    FailsAtFirst fails xs (o >>= fun y => .ok (g y)) := by
  rw [← List.append_nil xs]
  exact h.bind fun y _ => failsAtFirst_ok (g y)

theorem failsAtFirst_unbroken {o : Except ε β} {y : β} (h : o = .ok y)
    (hxs : ∀ x ∈ xs, ∀ e, ¬ fails x e) : FailsAtFirst fails xs o := by
  intro e
  rw [h]
  refine ⟨nofun, fun hfirst => ?_⟩
  obtain ⟨x, hx, e', he⟩ := exists_firstFailure.mp ⟨e, hfirst⟩
  exact absurd he (hxs x hx e')

end ProcCall
