import ProcCall.Proofs.Call.Listing

/-! # Arrays of elements that are not nullable

An array is taken as the result if it reports the declared kind and, where it reports
nullable elements and the declaration does not, if it holds no NULL. An array that reports
elements that are not nullable is taken at its word.
-/

namespace ProcCall.Extractor

variable {d : Driver} {stmt : Statement} {out : Registrar} {declared : ArrayElement}
  {handle : ArrayHandle} {db after : Database}

/-- The call hands out an array as its result: that of its only row or, if it produced no
rows, the one in the output slot. The last database is the one before the array is
looked at. -/
inductive HandsOut (d : Driver) (stmt : Statement) (out : Registrar) (declared : ArrayElement)
    (db : Database) : ArrayHandle → Database → Prop
  | row {rows rest : RowSet} {handle : ArrayHandle} {started after : Database}
      (hstart : ((array declared).start d stmt).on db = (.ok (some rows), started))
      (harray : (d.nextArray rows).on started = (.ok (some handle, rest), after))
      (honly : d.drain rest = ([], none)) : HandsOut d stmt out declared db handle after
  | output {handle : ArrayHandle} {started after : Database}
      (hstart : ((array declared).start d stmt).on db = (.ok none, started))
      (harray : (out.readArray d stmt).on started = (.ok (some handle), after)) :
      HandsOut d stmt out declared db handle after

theorem HandsOut.extract_on (h : HandsOut d stmt out declared db handle after)
    (args : List Argument) :
    ((array declared).extract d stmt out args).on db = (materialize d declared handle).on after := by
  cases h with
  | row hstart harray honly =>
    rw [extract, Action.on_bind_ok hstart, result]
    refine Action.on_bind_ok ?_ _
    rw [singleArray, Action.on_bind, Action.on_asCall, harray]
    simp only [mapError_ok, honly, Action.on_pure]
  | output hstart harray =>
    rw [extract, Action.on_bind_ok hstart, result, Action.on_bind_ok harray]

/-! ## The conversion -/

theorem findIdx?_isNull_eq_none {elements : List Value} :
    elements.findIdx? Value.isNull = none ↔ .null ∉ elements := by
  rw [List.findIdx?_eq_none_iff]
  constructor
  · intro h hmem
    cases h .null hmem
  · intro h v hv
    rw [Bool.eq_false_iff]
    exact fun hnull => h (Value.isNull_iff.mp hnull ▸ hv)

theorem findIdx?_isNull_eq_some {elements : List Value} {i : Nat}
    (hi : elements[i]? = some .null) (hbefore : ∀ j < i, elements[j]? ≠ some .null) :
    elements.findIdx? Value.isNull = some i := by
  obtain ⟨hlt, hnull⟩ := List.getElem?_eq_some_iff.mp hi
  refine List.findIdx?_eq_some_iff_getElem.mpr ⟨hlt, Value.isNull_iff.mpr hnull, fun j hj => ?_⟩
  rw [Value.isNull_iff]
  exact fun h => hbefore j hj (List.getElem?_eq_some_iff.mpr ⟨Nat.lt_trans hj hlt, h⟩)

theorem convertElements_eq_ok (hdeclared : declared.nullable = false) {v : Value} :
    convertElements d handle declared = .ok v ↔
      handle.data.element.kind = declared.kind ∧ ∃ elements, d.elements handle = .ok elements ∧
        (handle.data.element.nullable = true → .null ∉ elements) ∧ v = .array elements := by
  unfold convertElements
  by_cases hkind : handle.data.element.kind = declared.kind
  · rcases d.elements handle with e | elements
    · simp [hkind]
    · have hv : (.ok (.array elements) : Except CallError Value) = .ok v ↔
          v = .array elements :=
        ⟨fun h => (Except.ok.inj h).symm, fun h => h ▸ rfl⟩
      cases hreported : handle.data.element.nullable with
      | false => simp [hkind, hdeclared, hreported, hv]
      | true =>
        have hnull := @findIdx?_isNull_eq_none elements
        rcases hfind : elements.findIdx? Value.isNull with _ | i
        · simp [hkind, hdeclared, hreported, hfind, hnull.mp hfind, hv]
        · rw [hfind] at hnull
          simp [hkind, hdeclared, hreported, hfind, ← hnull]
  · simp [hkind]

theorem convertElements_null (hdeclared : declared.nullable = false)
    (hkind : handle.data.element.kind = declared.kind)
    (hreported : handle.data.element.nullable = true) {elements : List Value}
    (helements : d.elements handle = .ok elements) {i : Nat} (hi : elements[i]? = some .null)
    (hbefore : ∀ j < i, elements[j]? ≠ some .null) :
    convertElements d handle declared = .error (.fault (.nullElement i)) := by
  have hfind := findIdx?_isNull_eq_some hi hbefore
  simp [convertElements, hkind, hdeclared, hreported, helements, hfind]

/-! ## Arrays of the scripted driver -/

section Scripted

open Scripted (driver Produces)

variable {data : ArrayData}

theorem handsOut_row {rows : List Row} (h : Produces stmt db rows)
    (hplain : stmt.script.rows.getD [] = []) (harrays : stmt.script.resultArrays = [data]) :
    HandsOut driver stmt out declared db ⟨db.arrays.length, data, false⟩
      ((db.update stmt.call ((array declared).startRecord stmt.script)).tracked data false) := by
  have hstart := h.start_on (array declared)
  rw [Script.handedOut, hplain, harrays] at hstart
  exact .row hstart (Scripted.nextArray_on _ _) (Scripted.drain_pending _)

theorem handsOut_output (herror : stmt.script.error = none) (hrows : stmt.script.hasRows = false)
    (harray : stmt.script.outArray = some data) {slot : Slot} (hslot : out.slot? = some slot)
    (hregistered : (db.record? stmt.call).any (·.isRegistered slot) = true) :
    HandsOut driver stmt out declared db ⟨db.arrays.length, data, false⟩
      ((db.update stmt.call ((array declared).startRecord stmt.script)).tracked data false) := by
  have hstart : ((array declared).start driver stmt).on db =
      (.ok none, db.update stmt.call ((array declared).startRecord stmt.script)) := by
    rw [start_on stmt _ (by simp [hrows]), started, herror, hrows]
    rfl
  have hin : out.RegisteredIn stmt
      (db.update stmt.call ((array declared).startRecord stmt.script)) := by
    refine Registrar.registeredIn_of_slot hslot ?_
    rw [Database.record?_update, Option.any_map]
    exact hregistered
  refine .output hstart ?_
  rw [Registrar.readArray_on hin, hslot, harray]
  rfl

end Scripted

/-! ## The result -/

/-- What an extractor of elements that are not nullable makes of an array. -/
theorem array_not_nullable (hdeclared : declared.nullable = false)
    (h : HandsOut d stmt out declared db handle after) (args : List Argument) :
    let outcome := (((array declared).extract d stmt out args).on db).1
    let reported := handle.data.element
    (∀ v, outcome = .ok v ↔
      reported.kind = declared.kind ∧
      (∃ elements, d.elements handle = .ok elements ∧
        (reported.nullable = true → .null ∉ elements) ∧ v = .array elements) ∧
      ((d.free handle).on after).1 = .ok ()) ∧
    (reported.kind = declared.kind → reported.nullable = true →
      ∀ elements, d.elements handle = .ok elements →
      ∀ i, elements[i]? = some .null → (∀ j < i, elements[j]? ≠ some .null) →
        ∃ e, outcome = .error e ∧ e.primary = .fault (.nullElement i)) := by
  intro outcome reported
  have houtcome : outcome = mergeRelease (convertElements d handle declared)
      (((d.free handle).on after).1.mapError CallError.backend) := by
    change (((array declared).extract d stmt out args).on db).1 = _
    rw [h.extract_on, materialize]
    rfl
  rw [houtcome]
  constructor
  · intro v
    rw [mergeRelease_eq_ok, convertElements_eq_ok hdeclared, and_assoc]
    refine and_congr_right fun _ => and_congr_right fun _ => ?_
    cases ((d.free handle).on after).1 <;> simp
  · intro hkind hreported elements helements i hi hbefore
    rw [convertElements_null hdeclared hkind hreported helements hi hbefore]
    exact exists_mergeRelease_fault _ _

def gapped (nullable : Bool) : ArrayData :=
  ⟨"VARCHAR", ⟨.text, nullable⟩, [.ofText "a", .null, .ofText "b"]⟩

def producing (data : ArrayData) : Statement := ⟨0, { resultArrays := [data] }⟩

def delivering (data : ArrayData) : Statement := ⟨0, { outArray := some data }⟩

theorem array_not_nullable_gapped :
    let declared : ArrayElement := ⟨.text, false⟩
    let db : Database := { calls := [{ call := "tags" }], freeFailures := [(0, "gone")] }
    declared.nullable = false ∧
      (∃ after, HandsOut Scripted.driver (producing (gapped true)) .none declared db
        ⟨0, gapped true, false⟩ after) ∧
      ∃ e, (((array declared).extract Scripted.driver (producing (gapped true)) .none []).on db).1 =
        .error e ∧ e.primary = .fault (.nullElement 1) :=
  have h := handsOut_row ⟨rfl, rfl, rfl, rfl⟩ rfl rfl
  ⟨rfl, ⟨_, h⟩, (array_not_nullable rfl h []).2 rfl rfl _ rfl 1 rfl (by decide)⟩

/-- An array that holds a NULL although it reports elements that are not nullable is the
result as it is, from a row as well as from the output slot. -/
theorem unreported_null_kept :
    let declared : ArrayElement := ⟨.text, false⟩
    let data := gapped false
    let handle : ArrayHandle := ⟨0, data, false⟩
    let target : Registrar := .byIndex 1 .array
    let db : Database := { calls := [{ call := "tags", registered := [(.index 1, .array)] }] }
    (∃ after, HandsOut Scripted.driver (producing data) .none declared db handle after) ∧
      (∃ after, HandsOut Scripted.driver (delivering data) target declared db handle after) ∧
      data.element.kind = declared.kind ∧ data.elements[1]? = some .null ∧
      (((array declared).extract Scripted.driver (producing data) .none []).on db).1 =
        .ok (.array data.elements) ∧
      (((array declared).extract Scripted.driver (delivering data) target []).on db).1 =
        .ok (.array data.elements) :=
  ⟨⟨_, handsOut_row ⟨rfl, rfl, rfl, rfl⟩ rfl rfl⟩, ⟨_, handsOut_output rfl rfl rfl rfl rfl⟩, rfl, rfl, rfl, rfl⟩

end ProcCall.Extractor
