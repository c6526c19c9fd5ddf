import ProcCall.Proofs.Call.Answer
import ProcCall.Proofs.Call.Listing

/-! # How many rows a result takes

A call that produces rows is judged by their number alone: a scalar and an array take
exactly one row, a call without a result takes any number or none, as its policy says.
The output slot is not looked at.
-/

namespace ProcCall

/-! ## The output slot -/

/-- The ways to read an output slot. -/
structure OutputReads where
  supportsTyped : Database → Bool
  value : Statement → Slot → SqlType → Action BackendError Value
  untyped : Statement → Slot → Action BackendError Value
  rows : Statement → Slot → Action BackendError RowSet
  array : Statement → Slot → Action BackendError (Option ArrayHandle)

def Driver.reading (d : Driver) (o : OutputReads) : Driver :=
  { d with
    supportsTyped := o.supportsTyped
    outValue := o.value
    outUntyped := o.untyped
    outRows := o.rows
    outArray := o.array }

theorem Driver.readRows_reading (d : Driver) (o : OutputReads) (n : Nat) (r : RowSet) :
    (d.reading o).readRows n r = d.readRows n r := by
  induction n generalizing r with
  | zero => rfl
  | succ n ih =>
    simp only [readRows, ih]
    rfl

theorem Driver.drain_reading (d : Driver) (o : OutputReads) : (d.reading o).drain = d.drain :=
  funext fun _ => d.readRows_reading o _ _

namespace Extractor

variable {stmt : Statement} {db : Database} {rows : List Row}

/-- Rows are read as they are, whatever is registered as the output and however the driver
would read it. -/
theorem result_reading (d : Driver) (o : OutputReads) (out out' : Registrar) (args : List Argument)
    (rows : RowSet) (x : Extractor) :
    x.result (d.reading o) stmt out' args (some rows) = x.result d stmt out args (some rows) := by
  cases x with
  | array declared =>
    simp only [result, singleArray, d.drain_reading]
    rfl
  | _ => simp only [result, listRows, d.drain_reading]

theorem extract_reading {d : Driver} {db started : Database} {x : Extractor} {rows : RowSet}
    (hstart : (x.start d stmt).on db = (.ok (some rows), started)) (o : OutputReads)
    (out out' : Registrar) (args : List Argument) :
    (x.extract (d.reading o) stmt out' args).on db = (x.extract d stmt out args).on db := by
  have hstart' : (x.start (d.reading o) stmt).on db = (.ok (some rows), started) := hstart
  rw [extract, Action.on_bind_ok hstart', extract, Action.on_bind_ok hstart,
    result_reading d o out out']

/-! ## Counting -/

theorem singleValue_eq_ok {kind : ScalarKind} {v : Value} :
    singleValue kind rows = .ok v ↔
      ∃ row, rows = [row] ∧ (row.values.head?.getD .null).coerce kind = some v := by
  match rows with
  | [] => simp [singleValue]
  | [row] =>
    rw [singleValue, Registrar.coerced, Row.first, Row.get?, ← List.head?_eq_getElem?]
    rcases hc : (row.values.head?.getD .null).coerce kind with _ | w <;> simp [hc]
  | row :: next :: rest => simp [singleValue]

theorem singleValue_of_length_ne (h : rows.length ≠ 1) (kind : ScalarKind) :
    singleValue kind rows = .error (.fault (.incorrectResultSize 1 rows.length)) := by
  match rows with
  | [] => rfl
  | [row] => exact absurd rfl h
  | row :: next :: rest => rfl

theorem discard_reject (rows : List Row) :
    discard .reject rows =
      if rows.length = 0 then .ok .null
      else .error (.fault (.incorrectResultSize 0 rows.length)) := by
  cases rows <;> rfl

theorem convertElements_ne_size {d : Driver} {handle : ArrayHandle} {declared : ArrayElement}
    {e : CallError} (h : convertElements d handle declared = .error e) (expected actual : Nat) :
    e.primary ≠ .fault (.incorrectResultSize expected actual) := by
  simp only [convertElements] at h
  split at h
  · rw [← Except.error.inj h]
    nofun
  · split at h
    · rw [← Except.error.inj h]
      nofun
    · split at h
      · cases h
      · split at h
        · rw [← Except.error.inj h]
          nofun
        · cases h

theorem returnOutcome_ne_size {db : Database} {array : Option ArrayData} {e : CallError}
    (h : db.returnOutcome array = .error e) (expected actual : Nat) :
    e.primary ≠ .fault (.incorrectResultSize expected actual) := by
  cases array with
  | none => cases h
  | some data =>
    rw [Database.returnOutcome] at h
    rcases hf : db.freeOutcome db.arrays.length with late | ⟨⟩ <;> rw [hf] at h
    · rw [← Except.error.inj h]
      nofun
    · cases h

theorem array_result_on (declared : ArrayElement) (out : Registrar) (args : List Argument)
    (rows : RowSet) (db : Database) :
    ((array declared).result Scripted.driver stmt out args (some rows)).on db =
      match rows.arrays with
      | [] => (.error (.fault (.incorrectResultSize 1 0)), db)
      | data :: rest =>
        (mergeRelease
          (onlyArray Scripted.driver declared ⟨db.arrays.length, data, false⟩
            ({ rows with arrays := rest }.pending, none))
          (db.returnOutcome (some data)), db.returned (some data)) := by
  rw [result_on, read, Database.run_bind, Action.run_run, Scripted.nextArray_on]
  rcases rows.arrays with _ | ⟨data, rest⟩
  · rfl
  · have hfree : (Scripted.driver.free ⟨db.arrays.length, data, false⟩).on (db.tracked data false) =
        (db.freeOutcome db.arrays.length, (db.tracked data false).freed db.arrays.length) :=
      Scripted.free_on _ (by simp)
    simp only [Database.run_pure, Scripted.drain_pending, releaseResult, Action.on_asCall, hfree]
    rfl

/-- The only row may be an array that does not fit, and its release may fail, but the number
of rows is wrong only if more of them follow. -/
theorem onlyArray_size (declared : ArrayElement) (handle : ArrayHandle) (more : List Row)
    {released : Except CallError Unit} (hreleased : ∀ e, released = .error e →
      ∀ expected actual, e.primary ≠ .fault (.incorrectResultSize expected actual)) :
    (∃ e, mergeRelease (onlyArray Scripted.driver declared handle (more, none)) released =
        .error e ∧ e.primary = .fault (.incorrectResultSize 1 (1 + more.length))) ↔
      more ≠ [] := by
  cases more with
  | nil =>
    refine iff_of_false ?_ (not_not_intro rfl)
    rintro ⟨e, he, hsize⟩
    rcases mergeRelease_eq_error he with ⟨p, hp, hprimary⟩ | hr
    · rw [onlyArray] at hp
      exact convertElements_ne_size hp _ _ (hprimary ▸ hsize)
    · exact hreleased e hr _ _ hsize
  | cons row more =>
    refine iff_of_true ?_ (List.cons_ne_nil row more)
    exact exists_mergeRelease_fault _ released

/-! ## Extraction -/

open Scripted (driver Produces)

/-- How the number of rows that a call produces decides its result. -/
structure RowCounts (stmt : Statement) (db : Database) (rows : List Row) : Prop where
  /-- A scalar is the first column of the only row, NULL if that row has none. -/
  value : ∀ kind out args v,
    (((scalar kind).extract driver stmt out args).on db).1 = .ok v ↔
      ∃ row, rows = [row] ∧ (row.values.head?.getD .null).coerce kind = some v
  valueSize : rows.length ≠ 1 → ∀ kind out args,
    (((scalar kind).extract driver stmt out args).on db).1 =
      .error (.fault (.incorrectResultSize 1 rows.length))
  ignored : ∀ out args,
    (((void .acceptAndIgnore).extract driver stmt out args).on db).1 = .ok .null
  rejected : ∀ out args,
    (((void .reject).extract driver stmt out args).on db).1 =
      if rows.length = 0 then .ok .null
      else .error (.fault (.incorrectResultSize 0 rows.length))
  /-- Plain rows alone give no array, whatever their number. -/
  arraySize : stmt.script.rows.getD [] = [] ∨ stmt.script.resultArrays ≠ [] →
    ∀ declared out args,
      (∃ e, (((array declared).extract driver stmt out args).on db).1 = .error e ∧
        e.primary = .fault (.incorrectResultSize 1 rows.length)) ↔ rows.length ≠ 1
  /-- The array that is taken, if any, is released once, and no other is. -/
  released : ∀ declared out args,
    (((array declared).extract driver stmt out args).on db).2.arrays =
      db.arrays ++ (stmt.script.resultArrays.head?.map fun data =>
        { data := data, freeCount := 1, byClient := false }).toList
  outputUnread : ∀ (x : Extractor) out args out' reads,
    (x.extract (driver.reading reads) stmt out' args).on db =
      (x.extract driver stmt out args).on db

theorem row_counts (h : Produces stmt db rows) : RowCounts stmt db rows where
  value kind out args v := by
    rw [h.extract_on, result, Action.on_ofExcept, h.drain_handedOut]
    exact singleValue_eq_ok
  valueSize hn kind out args := by
    rw [h.extract_on, result, Action.on_ofExcept, h.drain_handedOut]
    exact singleValue_of_length_ne hn kind
  ignored out args := by
    rw [h.extract_on, result, Action.on_ofExcept, h.drain_handedOut]
    rfl
  rejected out args := by
    rw [h.extract_on, result, Action.on_ofExcept, h.drain_handedOut]
    exact discard_reject rows
  arraySize hshape declared out args := by
    rw [h.extract_on, array_result_on, Script.handedOut]
    dsimp only
    rcases ha : stmt.script.resultArrays with _ | ⟨data, rest⟩
    · have hrows : rows = [] := by
        rw [← h.rows, ha, List.map_nil, List.append_nil]
        exact hshape.resolve_right fun hne => hne ha
      rw [hrows]
      exact iff_of_true ⟨_, rfl, rfl⟩ Nat.zero_ne_one
    · let more : RowSet := { rows := stmt.script.rows.getD [], arrays := rest }
      have hlength : rows.length = 1 + more.pending.length := by
        rw [← h.rows, ha]
        simp only [more, RowSet.pending, List.length_append, List.length_map, List.length_cons]
        omega
      have hmore : rows.length ≠ 1 ↔ more.pending ≠ [] := by
        rw [hlength, ne_eq, ne_eq, Nat.add_eq_left, List.length_eq_zero_iff]
      rw [hmore, hlength]
      exact onlyArray_size declared _ more.pending fun e he => returnOutcome_ne_size he
  released declared out args := by
    rw [h.extract_on, array_result_on, Script.handedOut]
    dsimp only
    rcases stmt.script.resultArrays with _ | ⟨data, rest⟩
    · exact (List.append_nil _).symm
    · exact Database.modify_middle _ _ db.arrays []
  outputUnread x out args out' reads :=
    extract_reading (h.start_on x) reads out out' args

/-- The only row may be empty: it holds a NULL. -/
example :
    (((scalar .text).extract driver ⟨0, { rows := some [.ofValues []] }⟩ .none []).on
      { calls := [{ call := "tag" }] }).1 = .ok .null := rfl

theorem row_counts_two :
    let stmt : Statement := ⟨0, {
      rows := some [.ofValues []]
      resultArrays := [⟨"VARCHAR", ⟨.text, true⟩, [.null]⟩]
      outValues := [(.index 1, .ofText "a")] }⟩
    let db : Database :=
      { calls := [{ call := "tag", registered := [(.index 1, .varchar)] }] }
    let rows : List Row := [.ofValues [], .ofValues [.array [.null]]]
    Produces stmt db rows ∧ RowCounts stmt db rows ∧
      (((scalar .text).extract driver stmt (.byIndex 1 .varchar) []).on db).1 =
        .error (.fault (.incorrectResultSize 1 2)) :=
  have h : Produces _ _ _ := ⟨rfl, rfl, rfl, rfl⟩
  ⟨h, row_counts h, (row_counts h).valueSize (by decide) _ _ _⟩

end Extractor

end ProcCall
