import ProcCall.Proofs.Number.Numerals
import ProcCall.Value.Row

/-! # Generated column names

The columns of a row without names are numbered. A number has one text, so the lookup by
name finds the column of that number, and no other spelling of a number finds one.
-/

namespace ProcCall.Row

/-- The name is "col" and the decimal text of the column, which has no zero in front. -/
def Numbers (name : String) (i : Nat) : Prop :=
  ∃ digits, name.toList = "col".toList ++ digits ∧ Numeral.IsCanonical digits ∧
    Nat.ofDigitChars 10 digits 0 = i

theorem toList_columnName (i : Nat) :
    (columnName i).toList = "col".toList ++ Numeral.writeNat i := by
  rw [columnName, String.toList_append, Nat.toString_eq_repr, Nat.toList_repr]
  rfl

theorem numbers_iff {name : String} {i : Nat} : Numbers name i ↔ name = columnName i := by
  rw [← String.toList_inj, toList_columnName, Numbers]
  constructor
  · rintro ⟨digits, hname, hdigits⟩
    rw [hname, Numeral.eq_writeNat_iff.mpr hdigits]
  · intro hname
    exact ⟨_, hname, Numeral.eq_writeNat_iff.mp rfl⟩

theorem columnName_injective {i j : Nat} (h : columnName i = columnName j) : i = j := by
  obtain ⟨digits, htext, -, hi⟩ := numbers_iff.mpr (rfl : columnName i = columnName i)
  obtain ⟨digits', htext', -, hj⟩ := numbers_iff.mpr h
  rw [htext, List.append_cancel_left_eq] at htext'
  rw [← hi, ← hj, htext']

section Lookup

variable (values : List Value)

theorem length_columns_ofValues : (ofValues values).columns.length = values.length := by
  rw [ofValues, List.length_map, List.length_range]

theorem nodup_columns_ofValues : (ofValues values).columns.Nodup :=
  List.pairwise_map.mpr
    (List.nodup_range.imp fun hne heq => hne (columnName_injective heq))

variable {values}

theorem findIdx?_columnName {i : Nat} (h : i < values.length) :
    (ofValues values).columns.findIdx? (· == columnName i) = some i := by
  refine List.findIdx?_eq_some_iff_getElem.mpr ⟨by rwa [length_columns_ofValues], ?_, ?_⟩
  · simp [ofValues]
  · intro j hj hname
    have heq : columnName j = columnName i := by simpa [ofValues] using hname
    exact Nat.ne_of_lt hj (columnName_injective heq)

theorem findIdx?_eq_none {name : String} (h : ∀ i < values.length, name ≠ columnName i) :
    (ofValues values).columns.findIdx? (· == name) = none := by
  refine List.findIdx?_eq_none_iff.mpr fun column hmem => ?_
  obtain ⟨i, hi, rfl⟩ := List.mem_map.mp hmem
  exact beq_eq_false_iff_ne.mpr (h i (List.mem_range.mp hi)).symm

end Lookup

/-- A row of values alone has a column for each, no two of one name. A name that numbers one of
them finds its value, and every other name finds nothing. -/
theorem numbered_columns_found (values : List Value) :
    (ofValues values).columns.length = values.length ∧
    (ofValues values).columns.Nodup ∧
    ∀ name,
      (∀ i < values.length, Numbers name i →
        (ofValues values).getByName? name = (ofValues values).get? i ∧
        (ofValues values).get? i = values[i]?) ∧
      ((∀ i < values.length, ¬ Numbers name i) → (ofValues values).getByName? name = none) := by
  refine ⟨length_columns_ofValues values, nodup_columns_ofValues values, fun name => ⟨?_, ?_⟩⟩
  · intro i hi hname
    obtain rfl := numbers_iff.mp hname
    rw [getByName?, findIdx?_columnName hi, Option.bind_some]
    exact ⟨rfl, rfl⟩
  · intro hnone
    rw [getByName?, findIdx?_eq_none fun i hi hname => hnone i hi (numbers_iff.mpr hname),
      Option.bind_none]

/-- The eleventh column, and a spelling of its number that is not its name. -/
theorem numbered_columns_found_eleventh :
    let values := (List.range 12).map fun n => Value.array (List.replicate n .null)
    10 < values.length ∧ Numbers "col10" 10 ∧
    (ofValues values).getByName? "col10" = (ofValues values).get? 10 ∧
    (ofValues values).get? 10 = some (.array (List.replicate 10 .null)) ∧
    (∀ i < values.length, ¬ Numbers "col010" i) ∧
    (ofValues values).getByName? "col010" = none := by
  intro values
  have hlength : 10 < values.length := by decide
  have hten : Numbers "col10" 10 := numbers_iff.mpr rfl
  have hpadded : ∀ i < values.length, ¬ Numbers "col010" i := by
    rintro i - ⟨digits, hname, ⟨-, -, hzero⟩, -⟩
    have htext : "col010".toList = "col".toList ++ ['0', '1', '0'] := rfl
    rw [htext, List.append_cancel_left_eq] at hname
    subst hname
    exact absurd (hzero rfl) (by decide)
  obtain ⟨-, -, hfound⟩ := numbered_columns_found values
  obtain ⟨hname, hvalue⟩ := (hfound "col10").1 10 hlength hten
  exact ⟨hlength, hten, hname, hvalue, hpadded, (hfound "col010").2 hpadded⟩

end ProcCall.Row
