import ProcCall.Call.Descriptor
import ProcCall.Proofs.Call.Listing
import ProcCall.Proofs.Value.Coercion

/-! # What a call gives

Whatever the driver does, the value of a call that succeeds is one that its extractor
gave: what comes before and after can only fail. A scalar or the items of a scalar list
have been coerced to the kind that was declared.
-/

namespace ProcCall

variable {ε ε' α β : Type} {P : β → Prop}

namespace Action

/-- Every value that the action gives, on whatever database, satisfies the predicate. -/
def Yields (a : Action ε β) (P : β → Prop) : Prop := ∀ db v, (a.on db).1 = .ok v → P v

theorem yields_ofExcept {o : Except CallError β} (h : ∀ v, o = .ok v → P v) :
    (ofExcept o).Yields P := fun _ v hv => h v hv

theorem Yields.bind {a : Action ε α} {f : α → Action ε β} (h : ∀ x, (f x).Yields P) :
    (a >>= f).Yields P := by
  intro db v hv
  rw [on_bind] at hv
  rcases ho : a.on db with ⟨_ | x, db'⟩ <;> rw [ho] at hv
  · cases hv
  · exact h x db' v hv

theorem Yields.adapt {g : ε → ε'} {a : Action ε β} (h : a.Yields P) :
    Yields (ExceptT.adapt g a) P := by
  intro db v hv
  rw [on_adapt] at hv
  rcases ho : (a.on db).1 with e | w <;> rw [ho] at hv
  · cases hv
  · obtain rfl := Except.ok.inj hv
    exact h db w ho

theorem Yields.thenRelease {work : Action CallError β} {release : Action CallError Unit}
    (h : work.Yields P) : (work.thenRelease release).Yields P := by
  intro db v hv
  rw [on_thenRelease] at hv
  exact h db v (Extractor.mergeRelease_eq_ok.mp hv).1

end Action

/-- NULL or a scalar of the carrier of a kind. -/
def IsCell (k : ScalarKind) (v : Value) : Prop :=
  ∃ cell, v = .ofCell cell ∧ ∀ s ∈ cell, s.kind = k.carrier

theorem isCell_of_coerced {k : ScalarKind} {v w : Value} (h : Registrar.coerced k v = .ok w) :
    IsCell k w := by
  unfold Registrar.coerced at h
  split at h
  · rename_i hw
    obtain rfl := Except.ok.inj h
    exact Value.cell_of_coerce hw
  · cases h

namespace Extractor

variable (d : Driver) (stmt : Statement) (out : Registrar) (args : List Argument)
  {k : ScalarKind}

theorem isCell_of_singleValue {rows : List Row} {v : Value} (h : singleValue k rows = .ok v) :
    IsCell k v := by
  unfold singleValue at h
  split at h
  · exact isCell_of_coerced h
  · cases h

theorem yields_readScalar : (out.readScalar d stmt k).Yields (IsCell k) := by
  refine Action.Yields.bind fun (slot, t) => Action.Yields.bind fun db => ?_
  dsimp only
  split <;>
    exact Action.Yields.bind fun raw => Action.yields_ofExcept fun v hv => isCell_of_coerced hv

theorem yields_result_scalar (rows : Option RowSet) :
    ((scalar k).result d stmt out args rows).Yields (IsCell k) := by
  cases rows with
  | none => exact yields_readScalar d stmt out
  | some rows =>
    refine Action.yields_ofExcept fun v hv => ?_
    unfold rowsRead at hv
    split at hv
    · exact isCell_of_singleValue hv
    · cases hv

def IsCellList (k : ScalarKind) (v : Value) : Prop := ∃ vs, v = .array vs ∧ ∀ w ∈ vs, IsCell k w

theorem isCellList_of_collect {read : List Row × Option BackendError} {v : Value}
    (h : collect (listed k) read = .ok v) : IsCellList k v := by
  obtain ⟨vs, hvs, h⟩ := bind_eq_ok.mp h
  split at h
  · cases h
  · obtain rfl := Except.ok.inj h
    refine ⟨vs, rfl, fun w hw => ?_⟩
    obtain ⟨hlen, hrows⟩ := mapFrom_eq_ok.mp hvs
    obtain ⟨j, hj, rfl⟩ := List.mem_iff_getElem.mp hw
    obtain ⟨w, hw, hrow⟩ := hrows j read.1[j] (List.getElem?_eq_getElem (hlen ▸ hj))
    rw [List.getElem?_eq_getElem hj] at hw
    obtain rfl := Option.some.inj hw
    exact isCell_of_coerced hrow

theorem yields_result_scalarList (n : Option UInt32) (rows : Option RowSet) :
    ((scalarList k n).result d stmt out args rows).Yields (IsCellList k) :=
  Action.Yields.bind fun _ => Action.yields_ofExcept fun _ hv => isCellList_of_collect hv

end Extractor

theorem Descriptor.yields_invoke (d : Driver) (x : Descriptor) (args : List Argument)
    {P : Value → Prop} (h : ∀ stmt rows, (x.extractor.result d stmt x.output args rows).Yields P) :
    (x.invoke d args).Yields P :=
  (Action.Yields.bind fun _ => (Action.Yields.bind fun stmt =>
    (Action.Yields.bind fun _ => .bind fun _ => .bind fun rows => h stmt rows).thenRelease).thenRelease).adapt

end ProcCall
