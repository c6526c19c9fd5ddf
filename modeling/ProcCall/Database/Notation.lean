import ProcCall.Database.Faulty
import ProcCall.Error.Notation
import ProcCall.Interface.Notation
import ProcCall.Value.Notation

/-! # Databases as documents

Scripts and fault plans are read, records are written.
-/

namespace ProcCall

open Json

/-! ## Slots, rows and arrays -/

def Slot.toJson : Slot → Json
  | .index i => .obj [("index", ofNat i)]
  | .name s => .obj [("name", .str s)]

/-- With the text that messages show. -/
def Slot.toShownJson : Slot → Json
  | .index i => .obj [("index", ofNat i), ("display", .str (Slot.index i).display)]
  | .name s => .obj [("name", .str s), ("display", .str s)]

def Slot.ofJson? : Json → Option Slot
  | .obj [("index", i)] => (nat64? i).map .index
  | .obj [("name", s)] => (string? s).map .name
  | _ => none

def Row.toJson (r : Row) : Json :=
  .obj [("columns", ofList .str r.columns), ("values", ofList Value.toJson r.values)]

/-- Columns without names get theirs from their position. -/
def Row.ofJson? (j : Json) : Option Row := do
  let values ← list? Value.ofJson? (j.get "values")
  match ← nullable (list? string?) (j.get "columns") with
  | some columns => some ⟨columns, values⟩
  | none => some (Row.ofValues values)

def ArrayData.ofJson? (j : Json) : Option ArrayData := do
  some {
    typeName := ← string? (j.get "type_name")
    element := ← ArrayElement.ofJson? jsonForm (j.get "element")
    elements := ← list? Value.ofJson? (j.get "elements") }

/-! ## Records -/

def Binding.toJson : Binding → Json
  | .value v => .obj [("value", v.toJson)]
  | .typed v t => .obj [("typed", .arr [v.toJson, t.toJson])]
  | .null t => .obj [("null", t.toJson)]
  | .array name => .obj [("array", .str name)]

def CallRecord.toJson (r : CallRecord) : Json :=
  .obj [("bindings", ofList (fun (s, b) => .arr [s.toJson, b.toJson]) r.bindings),
    ("call", .str r.call), ("closed", .bool r.closed), ("executed", .bool r.executed),
    ("fetch_size", ofOption ofUInt32 r.fetchSize),
    ("registered", ofList (fun (s, t) => .arr [s.toJson, t.toJson]) r.registered)]

def ArrayRecord.toJson (r : ArrayRecord) : Json :=
  .obj [("created_by_client", .bool r.byClient), ("element", r.data.element.toJson),
    ("elements", ofList Value.toJson r.data.elements), ("free_count", ofNat r.freeCount),
    ("type_name", .str r.data.typeName)]

namespace Database

def callsJson (db : Database) : Json := ofList CallRecord.toJson db.calls

def arraysJson (db : Database) : Json := ofList ArrayRecord.toJson db.arrays

end Database

/-! ## Scripts -/

/-- A script and the call string it answers. A column of values takes the place of rows. -/
def Script.ofJson? (j : Json) : Option (String × Script) := do
  let rows ← nullable (list? Row.ofJson?) (j.get "rows")
  let column ← nullable (list? Value.ofJson?) (j.get "column")
  let outValues ← listOrNull? (pair? Slot.ofJson? Value.ofJson?) (j.get "out_values")
  some (← string? (j.get "call"), {
    rows := (column.map fun vs => vs.map fun v => Row.ofValues [v]).or rows
    resultArrays := ← listOrNull? ArrayData.ofJson? (j.get "result_arrays")
    outValues := outValues.reverse
    outRows := ← nullable (list? Row.ofJson?) (j.get "out_rows")
    outArray := ← nullable ArrayData.ofJson? (j.get "out_array")
    error := ← nullable BackendError.ofJson? (j.get "error")
    prepareError := ← nullable BackendError.ofJson? (j.get "prepare_error")
    closeError := ← nullable BackendError.ofJson? (j.get "close_error") })

/-- What is said last about a call string or an array counts. -/
def Database.ofJson? (j : Json) : Option Database := do
  let scripts ← listOrNull? Script.ofJson? (j.get "scripts")
  let freeFailures ← listOrNull? (pair? nat64? string?) (j.get "free_failures")
  some {
    scripts := scripts.reverse
    freeFailures := freeFailures.reverse
    arrayCreationFailure := ← nullable (pair? nat64? string?) (j.get "array_creation_failure")
    untyped := ← boolOrNull? (j.get "untyped") }

/-! ## Drivers -/

def FaultPlan.ofJson? (j : Json) : Option FaultPlan := do
  let text (name : String) := nullable string? (j.get name)
  let counted (name : String) := nullable (pair? nat64? string?) (j.get name)
  some {
    bind := ← counted "bind"
    register := ← text "register"
    fetchSize := ← text "fetch_size"
    resultSet := ← text "result_set"
    nextArray := ← text "next_array"
    outValue := ← text "out_value"
    outRows := ← text "out_rows"
    outArray := ← text "out_array"
    elements := ← text "elements"
    next := ← counted "next"
    noResultSet := ← boolOrNull? (j.get "no_result_set") }

/-- A bare driver takes no fault plan. -/
def Driver.ofJson? (j : Json) : Option Driver := do
  let bare ← boolOrNull? (j.get "bare")
  let plan ← nullable FaultPlan.ofJson? (j.get "faults")
  if bare then some Scripted.bareDriver
  else some ((plan.map FaultPlan.driver).getD Scripted.driver)

end ProcCall
