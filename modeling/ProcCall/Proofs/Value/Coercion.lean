import ProcCall.Value.Basic

/-! # What coercion gives

A value that was coerced to a kind is NULL or a scalar of the carrier of that kind, and a
scalar of the carrier passes unchanged. So what was coerced once is not changed by being
coerced again.
-/

namespace ProcCall

namespace Scalar

theorem carrier_kind (s : Scalar) : s.kind.carrier = s.kind := by cases s <;> rfl

theorem kind_of_convert {s r : Scalar} {k : ScalarKind} (h : s.convert k = some r) :
    r.kind = k.carrier := by
  unfold convert at h
  split at h
  case h_1 | h_7 =>
    obtain ⟨n, _, rfl⟩ := Option.map_eq_some_iff.mp h
    rfl
  case h_8 =>
    obtain ⟨n, _, h⟩ := Option.bind_eq_some_iff.mp h
    obtain ⟨n, _, rfl⟩ := Option.map_eq_some_iff.mp h
    rfl
  all_goals cases h <;> rfl

theorem kind_of_coerce {s r : Scalar} {k : ScalarKind} (h : s.coerce k = some r) :
    r.kind = k.carrier := by
  unfold coerce at h
  split at h
  · rename_i hk
    obtain rfl := Option.some.inj h
    rw [← hk, carrier_kind]
  · exact kind_of_convert h

theorem coerce_kind {s : Scalar} {k : ScalarKind} (h : s.kind = k) : s.coerce k = some s :=
  if_pos h

theorem coerce_carrier {s : Scalar} {k : ScalarKind} (h : s.kind = k.carrier) :
    s.coerce k = some s := by
  -- Only large objects are carried by another kind than their own.
  cases k with
  | blob =>
    cases s with
    | bytes bs => rfl
    | _ => cases h
  | clob =>
    cases s with
    | text t => rfl
    | _ => cases h
  | _ => exact coerce_kind h

theorem coerce_int {w w' : IntWidth} (n : Integer w) :
    (int w n).coerce (.int w') = (Integer.ofInt? w' n.val).map (int w') := by
  rw [coerce]
  split
  · rename_i h
    cases h
    rw [Integer.ofInt?_val, Option.map_some]
  · rfl

theorem asInteger?_of_coerce {s r : Scalar} {w : IntWidth} (h : s.coerce (.int w) = some r) :
    ∃ i n, r = int w i ∧ s.asInteger? = some n ∧ n.val = i.val := by
  cases s with
  | int w' n =>
    rw [coerce_int] at h
    obtain ⟨i, hi, rfl⟩ := Option.map_eq_some_iff.mp h
    exact ⟨i, _, rfl, rfl, (Integer.ofInt?_eq_some_iff.mp hi).symm⟩
  | decimal digits =>
    obtain ⟨n, hn, h⟩ := Option.bind_eq_some_iff.mp h
    obtain ⟨i, hi, rfl⟩ := Option.map_eq_some_iff.mp h
    exact ⟨i, n, rfl, hn, (Integer.ofInt?_eq_some_iff.mp hi).symm⟩
  | _ => cases h

end Scalar

namespace Value

def ofCell : Option Scalar → Value
  | none => null
  | some s => scalar s

theorem cell_of_coerce {v w : Value} {k : ScalarKind} (h : v.coerce k = some w) :
    ∃ cell, w = ofCell cell ∧ ∀ s ∈ cell, s.kind = k.carrier := by
  cases v with
  | null =>
    obtain rfl := Option.some.inj h
    exact ⟨none, rfl, by simp⟩
  | scalar s =>
    obtain ⟨r, hr, rfl⟩ := Option.map_eq_some_iff.mp h
    refine ⟨some r, rfl, ?_⟩
    rintro _ ⟨⟩
    exact Scalar.kind_of_coerce hr
  | array items => cases h

/-- Coercion keeps NULL, and what is not NULL it brings to the carrier of the kind, where it
stays when it is coerced again; an integer that comes out is the one that was read. What the
carrier holds already comes out as it is, and an array never does. -/
theorem coercion_stable (v : Value) (k : ScalarKind) :
    (∀ w, v.coerce k = some w →
      (w = .null ↔ v = .null) ∧ (v ≠ .null → w.kind? = some k.carrier) ∧
      w.coerce k = some w ∧
      ∀ width, k = .int width → v ≠ .null →
        ∃ i n, w = .scalar (.int width i) ∧ v.asInteger? = some n ∧ n.val = i.val) ∧
    (v.kind? = some k.carrier → v.coerce k = some v) ∧
    ∀ items, (Value.array items).coerce k = none := by
  refine ⟨fun w hw => ?_, fun hv => ?_, fun _ => rfl⟩
  · cases v with
    | null =>
      obtain rfl := Option.some.inj hw
      exact ⟨Iff.rfl, absurd rfl, rfl, fun _ _ => absurd rfl⟩
    | scalar s =>
      obtain ⟨r, hr, rfl⟩ := Option.map_eq_some_iff.mp hw
      have hkind := Scalar.kind_of_coerce hr
      refine ⟨by simp, fun _ => congrArg some hkind, ?_, ?_⟩
      · rw [coerce, Scalar.coerce_carrier hkind, Option.map_some]
      · rintro width rfl _
        obtain ⟨i, n, rfl, hn⟩ := Scalar.asInteger?_of_coerce hr
        exact ⟨i, n, rfl, hn⟩
    | array items => cases hw
  · cases v with
    | null => cases hv
    | scalar s => rw [coerce, Scalar.coerce_carrier (Option.some.inj hv), Option.map_some]
    | array items => cases hv

/-- A decimal with a sign and zeros in front, and a character object carried as text. -/
theorem coercion_stable_padded :
    let v := scalar (.decimal "+007")
    let w := scalar (.int .w64 ⟨7, by decide⟩)
    let note := ofText "a"
    v.coerce (.int .w64) = some w ∧ v ≠ .null ∧ w ≠ .null ∧
      w.kind? = some (.int .w64) ∧ w.coerce (.int .w64) = some w ∧
      (∃ i n, w = .scalar (.int .w64 i) ∧ v.asInteger? = some n ∧ n.val = i.val) ∧
      note.kind? = some ScalarKind.clob.carrier ∧ note.coerce .clob = some note := by
  intro v w note
  have hv : v.coerce (.int .w64) = some w := by decide
  have hn : v ≠ .null := nofun
  obtain ⟨hnull, hkind, hagain, hint⟩ := (coercion_stable v (.int .w64)).1 w hv
  have hnote : note.kind? = some ScalarKind.clob.carrier := rfl
  exact ⟨hv, hn, mt hnull.mp hn, hkind hn, hagain, hint .w64 rfl hn, hnote,
    (coercion_stable note .clob).2.1 hnote⟩

end Value

end ProcCall
