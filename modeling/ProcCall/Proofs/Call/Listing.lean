import ProcCall.Proofs.Call.Extraction
import ProcCall.Proofs.Scripted.Reading

/-! # Lists from rows

A list result is the image of the rows: each is converted with its position, and the
first that cannot be converted decides. It makes no difference whether the rows are
those of the call or those of a cursor in the output slot.
-/

namespace ProcCall

namespace Extractor

/-! ## Conversion in order -/

variable {map : Row → Nat → Except CallError Value} {i : Nat} {rows : List Row}

theorem mapFrom_eq_ok {vs : List Value} :
    mapFrom map i rows = .ok vs ↔ vs.length = rows.length ∧
      ∀ j row, rows[j]? = some row → ∃ v, vs[j]? = some v ∧ map row (i + j) = .ok v := by
  induction rows generalizing i vs with
  | nil => simp [mapFrom, eq_comm]
  | cons row rest ih =>
    have hi : ∀ j, i + 1 + j = i + (j + 1) := fun j => Nat.add_right_comm i 1 j
    specialize @ih (i + 1)
    simp only [hi] at ih
    rw [mapFrom, bind_eq_ok]
    constructor
    · rintro ⟨w, hw, h⟩
      obtain ⟨ws, hws, h⟩ := bind_eq_ok.mp h
      obtain rfl := Except.ok.inj h
      obtain ⟨hlen, hrest⟩ := ih.mp hws
      refine ⟨congrArg Nat.succ hlen, fun j row' hj => ?_⟩
      cases j with
      | zero =>
        obtain rfl := Option.some.inj hj
        exact ⟨w, rfl, hw⟩
      | succ j => exact hrest j row' hj
    · rintro ⟨hlen, h⟩
      obtain ⟨w, ws, rfl⟩ := List.exists_cons_of_length_eq_add_one hlen
      obtain ⟨_, hw, hrow⟩ := h 0 row rfl
      obtain rfl := Option.some.inj hw
      have hrest := ih.mpr ⟨Nat.succ.inj hlen, fun j row' hj => h (j + 1) row' hj⟩
      exact ⟨w, hrow, bind_eq_ok.mpr ⟨ws, hrest, rfl⟩⟩

theorem mapFrom_eq_error {e : CallError} :
    mapFrom map i rows = .error e ↔ ∃ j row, rows[j]? = some row ∧ map row (i + j) = .error e ∧
      ∀ l < j, ∀ row', rows[l]? = some row' → ∃ v, map row' (i + l) = .ok v := by
  induction rows generalizing i with
  | nil => simp [mapFrom]
  | cons row rest ih =>
    have hi : ∀ j, i + 1 + j = i + (j + 1) := fun j => Nat.add_right_comm i 1 j
    specialize @ih (i + 1)
    simp only [hi] at ih
    rw [mapFrom]
    rcases hrow : map row i with e' | w
    · constructor
      · rintro ⟨⟩
        exact ⟨0, row, rfl, hrow, by simp⟩
      · rintro ⟨j, row', hj, he, hbefore⟩
        cases j with
        | zero =>
          obtain rfl := Option.some.inj hj
          obtain rfl : e' = e := Except.error.inj (hrow.symm.trans he)
          rfl
        | succ j =>
          obtain ⟨v, hv⟩ := hbefore 0 j.succ_pos row rfl
          cases hrow.symm.trans hv
    · have hcons : (do let vs ← mapFrom map (i + 1) rest; Except.ok (w :: vs)) = .error e ↔
          mapFrom map (i + 1) rest = .error e := by
        cases mapFrom map (i + 1) rest <;> simp [bind, Except.bind]
      refine hcons.trans (ih.trans ?_)
      constructor
      · rintro ⟨j, row', hj, he, hbefore⟩
        refine ⟨j + 1, row', hj, he, fun l hl row'' hr => ?_⟩
        cases l with
        | zero =>
          obtain rfl := Option.some.inj hr
          exact ⟨w, hrow⟩
        | succ l => exact hbefore l (Nat.lt_of_succ_lt_succ hl) row'' hr
      · rintro ⟨j, row', hj, he, hbefore⟩
        cases j with
        | zero =>
          obtain rfl := Option.some.inj hj
          cases hrow.symm.trans he
        | succ j =>
          exact ⟨j, row', hj, he, fun l hl => hbefore (l + 1) (Nat.succ_lt_succ hl)⟩

/-- An outcome is the image of the rows: the list of what they convert to, or the error of
the first row that cannot be converted. -/
structure Image (map : Row → Nat → Except CallError Value) (rows : List Row)
    (outcome : Except CallError Value) : Prop where
  succeeds : (∃ v, outcome = .ok v) ↔ ∀ i row, rows[i]? = some row → ∃ v, map row i = .ok v
  items : ∀ v, outcome = .ok v ↔ ∃ vs, v = .array vs ∧ vs.length = rows.length ∧
    ∀ i row, rows[i]? = some row → ∃ w, vs[i]? = some w ∧ map row i = .ok w
  fails : ∀ e, outcome = .error e ↔ ∃ i row, rows[i]? = some row ∧ map row i = .error e ∧
    ∀ j < i, ∀ earlier, rows[j]? = some earlier → ∃ v, map earlier j = .ok v

theorem image_collect (map : Row → Nat → Except CallError Value) (rows : List Row) :
    Image map rows (collect map (rows, none)) := by
  have hok := @mapFrom_eq_ok map 0 rows
  have herror := @mapFrom_eq_error map 0 rows
  simp only [Nat.zero_add] at hok herror
  unfold collect
  rcases hm : mapFrom map 0 rows with e | vs
  · obtain ⟨i, row, hi, he, hbefore⟩ := herror.mp hm
    have hfails : ¬ ∀ i row, rows[i]? = some row → ∃ v, map row i = .ok v := by
      intro h
      obtain ⟨v, hv⟩ := h i row hi
      cases he.symm.trans hv
    refine ⟨⟨nofun, fun h => absurd h hfails⟩, fun v => ⟨nofun, ?_⟩, fun e' => ?_⟩
    · rintro ⟨ws, _, _, hws⟩
      exact absurd (fun i row hi => (hws i row hi).imp fun _ h => h.2) hfails
    · rw [← herror, hm]
      simp [bind, Except.bind]
  · obtain ⟨hlen, hrows⟩ := hok.mp hm
    have hevery : ∀ i row, rows[i]? = some row → ∃ v, map row i = .ok v :=
      fun i row hi => (hrows i row hi).imp fun _ h => h.2
    refine ⟨⟨fun _ => hevery, fun _ => ⟨_, rfl⟩⟩, fun v => ?_, fun e => ⟨nofun, ?_⟩⟩
    · simp only [← hok, hm]
      constructor
      · rintro ⟨⟩
        exact ⟨vs, rfl, rfl⟩
      · rintro ⟨ws, rfl, h⟩
        rw [← Except.ok.inj h]
        rfl
    · rintro ⟨i, row, hi, he, _⟩
      obtain ⟨v, hv⟩ := hevery i row hi
      cases he.symm.trans hv

end Extractor

/-! ## Where the rows come from -/

def Script.handedOut (s : Script) : RowSet := { rows := s.rows.getD [], arrays := s.resultArrays }

namespace Scripted

/-- The call produces these rows, and they have not been taken. -/
structure Produces (stmt : Statement) (db : Database) (rows : List Row) : Prop where
  noError : stmt.script.error = none
  hasRows : stmt.script.hasRows = true
  rows : stmt.script.rows.getD [] ++ stmt.script.resultArrays.map ArrayData.toRow = rows
  untaken : (db.record? stmt.call).any CallRecord.rowsTaken = false

/-- The call produces no rows, and the registered output is a cursor on these. -/
structure Delivers (stmt : Statement) (out : Registrar) (db : Database) (rows : List Row) :
    Prop where
  noError : stmt.script.error = none
  noRows : stmt.script.hasRows = false
  rows : stmt.script.outRows.getD [] = rows
  registered : ∃ slot, out.slot? = some slot ∧
    (db.record? stmt.call).any (·.isRegistered slot) = true

section Produces

variable {stmt : Statement} {db : Database} {rows : List Row}

theorem Produces.start_on (h : Produces stmt db rows) (x : Extractor) :
    (x.start driver stmt).on db =
      (.ok (some stmt.script.handedOut), db.update stmt.call (x.startRecord stmt.script)) := by
  rw [Extractor.start_on stmt x fun _ => h.untaken, Extractor.started, h.noError, h.hasRows]
  rfl

theorem Produces.extract_on (h : Produces stmt db rows) (x : Extractor) (out : Registrar)
    (args : List Argument) :
    (x.extract driver stmt out args).on db =
      (x.result driver stmt out args (some stmt.script.handedOut)).on
        (db.update stmt.call (x.startRecord stmt.script)) :=
  Action.on_bind_ok (h.start_on x) _

theorem Produces.drain_handedOut (h : Produces stmt db rows) :
    driver.drain stmt.script.handedOut = (rows, none) := by
  rw [drain_pending, RowSet.pending, ← h.rows]
  rfl

end Produces

theorem Delivers.readRows_on {stmt : Statement} {out : Registrar} {db : Database} {rows : List Row}
    (h : Delivers stmt out db rows) :
    (out.readRows driver stmt).on db = (.ok { rows, arrays := [] }, db) := by
  obtain ⟨slot, hslot, hr⟩ := h.registered
  rw [Registrar.readRows_on (Registrar.registeredIn_of_slot hslot hr), Registrar.fromSlot, hslot,
    h.rows]

end Scripted

namespace Extractor

open Scripted (Produces Delivers)

/-- How a list extractor converts the row at a position: the first column to the declared
kind, or the row by the row mapper among the arguments. -/
inductive Converts (args : List Argument) :
    Extractor → (Row → Nat → Except CallError Value) → Prop
  | firstColumn (kind : ScalarKind) (n : Option UInt32) :
      Converts args (.scalarList kind n) fun row _ =>
        match (row.values.head?.getD .null).coerce kind with
        | some w => .ok w
        | none => .error (.fault (.typeMismatch kind.name (row.values.head?.getD .null).typeName))
  | rowMapper {mapper : Nat} {m : RowMapper} (h : args[mapper]? = some (.mapper m))
      (n : Option UInt32) :
      Converts args (.mappedList mapper n) fun row i =>
        match m.apply row i with
        | .ok v => .ok v
        | .error e => .error (.fault (.backend e))

variable {x : Extractor} {args : List Argument} {map : Row → Nat → Except CallError Value}

theorem Converts.result_eq (h : Converts args x map) (d : Driver) (stmt : Statement)
    (out : Registrar) (rows : Option RowSet) :
    x.result d stmt out args rows = (do
      let rows ← listRows d stmt out rows
      Action.ofExcept (collect map (d.drain rows))) := by
  cases h with
  | firstColumn kind n =>
    rw [result]
    congr 3
    funext rows
    congr 2
    funext row _
    rw [listed, Row.first, Row.get?, ← List.head?_eq_getElem?]
    rfl
  | @rowMapper mapper m hm n =>
    rw [result, hm]
    dsimp only [Option.bind_some, Argument.mapper?]
    congr 3
    funext rows
    congr 2
    funext row i
    rw [mapped]
    cases m.apply row i <;> rfl

/-- On both paths the result is the image of the rows. -/
theorem list_image (hx : Converts args x map) {rows : List Row} {stmt cursor : Statement}
    {out target : Registrar} {db db' : Database} (hrows : Produces stmt db rows)
    (hcursor : Delivers cursor target db' rows) :
    let produced := ((x.extract Scripted.driver stmt out args).on db).1
    let delivered := ((x.extract Scripted.driver cursor target args).on db').1
    produced = delivered ∧ Image map rows produced := by
  intro produced delivered
  have hproduced : produced = collect map (rows, none) := by
    have hs : Extractor.started stmt.script =
        .ok (some { rows := stmt.script.rows.getD [], arrays := stmt.script.resultArrays }) := by
      rw [started, hrows.noError, hrows.hasRows]
      rfl
    change ((x.extract Scripted.driver stmt out args).on db).1 = _
    have hstart := start_on stmt x fun _ => hrows.untaken
    rw [hs] at hstart
    rw [extract, Action.on_bind_ok hstart, hx.result_eq, listRows,
      Action.on_bind_ok (Action.on_pure _ _), Scripted.drain_pending, ← hrows.rows]
    rfl
  have hdelivered : delivered = collect map (rows, none) := by
    have hs : Extractor.started cursor.script = .ok none := by
      rw [started, hcursor.noError, hcursor.noRows]
      rfl
    have hread : Delivers cursor target
        (db'.update cursor.call (x.startRecord cursor.script)) rows := by
      refine ⟨hcursor.noError, hcursor.noRows, hcursor.rows, ?_⟩
      obtain ⟨slot, hslot, hr⟩ := hcursor.registered
      refine ⟨slot, hslot, ?_⟩
      rw [Database.record?_update, Option.any_map]
      exact hr
    change ((x.extract Scripted.driver cursor target args).on db').1 = _
    have hstart := @start_on cursor x db' (by simp [hcursor.noRows])
    rw [hs] at hstart
    rw [extract, Action.on_bind_ok hstart, hx.result_eq, listRows,
      Action.on_bind_ok hread.readRows_on, Scripted.drain_pending, RowSet.pending, List.map_nil,
      List.append_nil]
    rfl
  rw [hproduced, hdelivered]
  exact ⟨rfl, image_collect map rows⟩

def twoRows : List Row := [.ofValues [.ofText "a"], .ofValues []]

def failsAtSecond : RowMapper := (RowShape.failAt 1 "no such row").indexed

theorem list_image_failing :
    let x := mappedList 0 (some 10)
    let map := fun row i =>
      match failsAtSecond.apply row i with
      | .ok v => .ok v
      | .error e => .error (.fault (.backend e))
    let produced := ((x.extract Scripted.driver ⟨0, { rows := some twoRows }⟩ .none
      [.mapper failsAtSecond]).on { calls := [{ call := "list" }] }).1
    let delivered := ((x.extract Scripted.driver ⟨0, { outRows := some twoRows }⟩
      (.byIndex 1 .refCursor) [.mapper failsAtSecond]).on
        { calls := [{ call := "list", registered := [(.index 1, .refCursor)] }] }).1
    produced = .error (.backend ⟨.query, "no such row"⟩) ∧
      produced = delivered ∧ Image map twoRows produced :=
  ⟨rfl, list_image (.rowMapper rfl (some 10)) ⟨rfl, rfl, rfl, rfl⟩
    ⟨rfl, rfl, rfl, .index 1, rfl, rfl⟩⟩

end Extractor

end ProcCall
