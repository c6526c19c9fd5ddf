import ProcCall.Call.Descriptor
import ProcCall.Config.Notation
import ProcCall.Value.Notation

/-! # Calls as documents

Arguments and the parts of a descriptor. A position of 0 stands for an argument that is
not bound.
-/

namespace ProcCall

open Json

/-! ## Arguments -/

def ColumnRef.ofJson? : Json → Option ColumnRef
  | .str s => some (.name s)
  | j => (nat64? j).map .position

def RowShape.ofJson? : Json → Option RowShape
  | .str "row" => some .values
  | .str "columns" => some .names
  | .str "index" => some .position
  | .obj [("column", c)] => (ColumnRef.ofJson? c).map .column
  | .obj [("join", cs)] => (list? ColumnRef.ofJson? cs).map .join
  | .obj [("fail", text)] => (string? text).map .fail
  | .obj [("fail_at", place)] => (pair? nat64? string? place).map fun (n, text) => .failAt n text
  | _ => none

def Argument.ofJson? : Json → Option Argument
  | .obj [("mapper", shape)] => (RowShape.ofJson? shape).map fun s => .mapper s.plain
  | .obj [("indexed_mapper", shape)] => (RowShape.ofJson? shape).map fun s => .mapper s.indexed
  | j => (Value.ofJson? j).map .value

/-! ## Binders -/

namespace Binder

def positionsJson (ps : List (Option Nat)) : Json := ofList (fun p => ofNat (p.getD 0)) ps

def namesJson (ns : List (Option String)) : Json := ofList (ofOption .str) ns

def typesJson (ts : List SqlType) : Json := ofList SqlType.toJson ts

def toJson : Binder → Json
  | noParameters => .str "none"
  | byIndex ps => .obj [("by_index", .obj [("positions", positionsJson ps)])]
  | byIndexAndType ps ts =>
    .obj [("by_index_and_type", .obj [("positions", positionsJson ps), ("types", typesJson ts)])]
  | byName ns => .obj [("by_name", .obj [("names", namesJson ns)])]
  | byNameAndType ns ts =>
    .obj [("by_name_and_type", .obj [("names", namesJson ns), ("types", typesJson ts)])]
  | resourceBacked inner => .obj [("resource_backed", inner.toJson)]

def position? (j : Json) : Option (Option Nat) :=
  (natBelow? 256 j).map fun n => if n = 0 then none else some n

def ofJson? : Json → Option Binder
  | .str "none" => some noParameters
  | .obj [("resource_backed", inner)] => (ofJson? inner).map resourceBacked
  | .obj [(tag, j)] =>
    let positions := list? position? (j.get "positions")
    let names := list? (nullable string?) (j.get "names")
    let types := list? (SqlType.ofJson? jsonForm) (j.get "types")
    match tag with
    | "by_index" => positions.map byIndex
    | "by_index_and_type" => do some (byIndexAndType (← positions) (← types))
    | "by_name" => names.map byName
    | "by_name_and_type" => do some (byNameAndType (← names) (← types))
    | _ => none
  | _ => none

end Binder

/-! ## Results -/

def Registrar.toJson : Registrar → Json
  | .none => .str "none"
  | .byIndex i t => .obj [("by_index", .obj [("index", ofNat i), ("sql_type", t.toJson)])]
  | .byName s t => .obj [("by_name", .obj [("name", .str s), ("sql_type", t.toJson)])]

def Registrar.ofJson? : Json → Option Registrar
  | .str "none" => some .none
  | .obj [("by_index", j)] => do
    let type ← SqlType.ofJson? jsonForm (j.get "sql_type")
    some (.byIndex (← natBelow? 256 (j.get "index")) type)
  | .obj [("by_name", j)] => do
    let type ← SqlType.ofJson? jsonForm (j.get "sql_type")
    some (.byName (← string? (j.get "name")) type)
  | _ => Option.none

def Extractor.toJson : Extractor → Json
  | .void p => .obj [("void", .obj [("policy", .str p.tag)])]
  | .scalar k => .obj [("scalar", .obj [("kind", k.toJson)])]
  | .scalarList k n =>
    .obj [("scalar_list", .obj [("fetch_size", ofOption ofUInt32 n), ("kind", k.toJson)])]
  | .mappedList i n =>
    .obj [("mapped_list", .obj [("fetch_size", ofOption ofUInt32 n), ("mapper", ofNat i)])]
  | .array e => .obj [("array", .obj [("element", e.toJson)])]

def Extractor.ofJson? : Json → Option Extractor
  | .obj [(tag, j)] =>
    let kind := ScalarKind.ofJson? jsonForm (j.get "kind")
    let fetchSize := nullable uint32? (j.get "fetch_size")
    match tag with
    | "void" => (VoidPolicy.ofJson? jsonForm (j.get "policy")).map .void
    | "scalar" => kind.map .scalar
    | "scalar_list" => do some (.scalarList (← kind) (← fetchSize))
    | "mapped_list" => do some (.mappedList (← nat64? (j.get "mapper")) (← fetchSize))
    | "array" => (ArrayElement.ofJson? jsonForm (j.get "element")).map .array
    | _ => none
  | _ => none

/-! ## Descriptors -/

def ArraySlot.toJson (s : ArraySlot) : Json :=
  .obj [("argument", ofNat s.argument), ("type_name", .str s.typeName)]

def ArraySlot.ofJson? (j : Json) : Option ArraySlot := do
  some ⟨← nat64? (j.get "argument"), ← string? (j.get "type_name")⟩

def ArraySlot.listJson : List ArraySlot → Json
  | [] => .str "none"
  | slots => .obj [("arrays", ofList ArraySlot.toJson slots)]

def ArraySlot.listOfJson? : Json → Option (List ArraySlot)
  | .str "none" => some []
  | .obj [("arrays", slots)] => list? ArraySlot.ofJson? slots
  | _ => none

def Descriptor.toJson (x : Descriptor) : Json :=
  .obj [("call_string", .str x.callString), ("extractor", x.extractor.toJson),
    ("in_parameters", x.inputs.toJson), ("method", .str x.method),
    ("out_parameter", x.output.toJson), ("parameter_count", ofNat x.parameterCount),
    ("procedure_name", .str x.procedureName), ("resources", ArraySlot.listJson x.arraySlots),
    ("translates_errors", .bool x.wrapsFailures)]

end ProcCall
