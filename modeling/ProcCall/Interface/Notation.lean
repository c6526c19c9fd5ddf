import ProcCall.Interface.Basic
import ProcCall.Json.Decode

/-! # Interfaces as documents

Writing gives every field, the absent ones as null. Reading fills in what is missing and
passes over what it does not know.
-/

namespace ProcCall

open Json

/-! ## Writing -/

def ScalarKind.toJson (k : ScalarKind) : Json := .str k.tag

def SqlType.toJson : SqlType → Json
  | .vendor c => .obj [("vendor", .int c.val)]
  | t => .str t.tag

def ArrayElement.toJson (e : ArrayElement) : Json :=
  .obj [("kind", e.kind.toJson), ("nullable", .bool e.nullable)]

def ParamType.toJson : ParamType → Json
  | .scalar k => .obj [("scalar", k.toJson)]
  | .array e => .obj [("array", e.toJson)]
  | .list k => .obj [("list", ofOption ScalarKind.toJson k)]
  | .rowMapper => .str "row_mapper"
  | .indexedRowMapper => .str "indexed_row_mapper"

def ReturnType.toJson : ReturnType → Json
  | .unit => .str "unit"
  | .scalar k => .obj [("scalar", k.toJson)]
  | .list k => .obj [("list", ofOption ScalarKind.toJson k)]
  | .array e => .obj [("array", e.toJson)]

def ParameterMetadata.toJson (m : ParameterMetadata) : Json :=
  .obj [("name", ofOption .str m.name), ("sql_type", ofOption SqlType.toJson m.sqlType),
    ("type_name", ofOption .str m.typeName)]

def Parameter.toJson (p : Parameter) : Json :=
  .obj [("metadata", p.metadata.toJson), ("name", ofOption .str p.name),
    ("type", p.type.toJson)]

def OutParameter.toJson (o : OutParameter) : Json :=
  .obj [("index", ofOption ofUInt64 o.index), ("name", ofOption .str o.name),
    ("sql_type", ofOption SqlType.toJson o.sqlType)]

def ReturnValue.toJson (r : ReturnValue) : Json :=
  .obj [("name", ofOption .str r.name), ("sql_type", ofOption SqlType.toJson r.sqlType)]

def MethodMetadata.toJson (m : MethodMetadata) : Json :=
  .obj [("fetch_size", ofOption ofUInt32 m.fetchSize), ("namespace", ofOption .str m.package),
    ("out_parameter", ofOption OutParameter.toJson m.outParameter),
    ("procedure_name", ofOption .str m.procedureName),
    ("return_value", ofOption ReturnValue.toJson m.returnValue),
    ("schema", ofOption .str m.schema)]

def Method.toJson (m : Method) : Json :=
  .obj [("metadata", m.metadata.toJson), ("name", .str m.name),
    ("parameters", .arr (m.parameters.map Parameter.toJson)),
    ("raw_backend_errors", .bool m.rawBackendErrors), ("returns", m.returns.toJson)]

def InterfaceMetadata.toJson (m : InterfaceMetadata) : Json :=
  .obj [("fetch_size", ofOption ofUInt32 m.fetchSize), ("namespace", ofOption .str m.package),
    ("schema", ofOption .str m.schema)]

def Interface.toJson (i : Interface) : Json :=
  .obj [("metadata", i.metadata.toJson), ("methods", .arr (i.methods.map Method.toJson)),
    ("name", .str i.name)]

/-! ## Reading -/

variable (form : Form)

def ScalarKind.ofJson? (j : Json) : Option ScalarKind :=
  (Form.choice? j).bind fun (name, content) =>
    if form.isEmpty content then ScalarKind.ofTag? name else none

def SqlType.ofJson? (j : Json) : Option SqlType :=
  (Form.choice? j).bind fun (name, content) =>
    if name = "vendor" then
      match content with
      | some (.int n) => (Integer.ofInt? .w32 n).map .vendor
      | _ => none
    else if form.isEmpty content then SqlType.ofTag? name else none

def ArrayElement.ofJson? (j : Json) : Option ArrayElement :=
  match form.record? ["kind", "nullable"] j with
  | some [kind, nullable] => do
    some {
      kind := ← required (ScalarKind.ofJson? form) kind
      nullable := ← defaulted false bool? nullable }
  | _ => none

def ParamType.ofJson? (j : Json) : Option ParamType :=
  (Form.choice? j).bind fun (name, content) =>
    match name with
    | "scalar" => content.bind fun c => (ScalarKind.ofJson? form c).map .scalar
    | "array" => content.bind fun c => (ArrayElement.ofJson? form c).map .array
    | "list" => content.bind fun c => (optional (ScalarKind.ofJson? form) (some c)).map .list
    | "row_mapper" => if form.isEmpty content then some .rowMapper else none
    | "indexed_row_mapper" => if form.isEmpty content then some .indexedRowMapper else none
    | _ => none

def ReturnType.ofJson? (j : Json) : Option ReturnType :=
  (Form.choice? j).bind fun (name, content) =>
    match name with
    | "unit" => if form.isEmpty content then some .unit else none
    | "scalar" => content.bind fun c => (ScalarKind.ofJson? form c).map .scalar
    | "list" => content.bind fun c => (optional (ScalarKind.ofJson? form) (some c)).map .list
    | "array" => content.bind fun c => (ArrayElement.ofJson? form c).map .array
    | _ => none

def ParameterMetadata.ofJson? (j : Json) : Option ParameterMetadata :=
  match form.record? ["name", "sql_type", "type_name"] j with
  | some [name, sqlType, typeName] => do
    some {
      name := ← optional string? name
      sqlType := ← optional (SqlType.ofJson? form) sqlType
      typeName := ← optional string? typeName }
  | _ => none

def Parameter.ofJson? (j : Json) : Option Parameter :=
  match form.record? ["name", "type", "metadata"] j with
  | some [name, type, metadata] => do
    some {
      name := ← optional string? name
      type := ← required (ParamType.ofJson? form) type
      metadata := ← defaulted {} (ParameterMetadata.ofJson? form) metadata }
  | _ => none

def OutParameter.ofJson? (j : Json) : Option OutParameter :=
  match form.record? ["index", "name", "sql_type"] j with
  | some [index, name, sqlType] => do
    some {
      index := ← optional uint64? index
      name := ← optional string? name
      sqlType := ← optional (SqlType.ofJson? form) sqlType }
  | _ => none

def ReturnValue.ofJson? (j : Json) : Option ReturnValue :=
  match form.record? ["name", "sql_type"] j with
  | some [name, sqlType] => do
    some {
      name := ← optional string? name
      sqlType := ← optional (SqlType.ofJson? form) sqlType }
  | _ => none

def MethodMetadata.ofJson? (j : Json) : Option MethodMetadata :=
  match form.record? ["procedure_name", "namespace", "schema", "fetch_size", "out_parameter",
      "return_value"] j with
  | some [procedureName, package, schema, fetchSize, outParameter, returnValue] => do
    some {
      procedureName := ← optional string? procedureName
      package := ← optional string? package
      schema := ← optional string? schema
      fetchSize := ← optional uint32? fetchSize
      outParameter := ← optional (OutParameter.ofJson? form) outParameter
      returnValue := ← optional (ReturnValue.ofJson? form) returnValue }
  | _ => none

def Method.ofJson? (j : Json) : Option Method :=
  match form.record? ["name", "parameters", "returns", "metadata", "raw_backend_errors"] j with
  | some [name, parameters, returns, metadata, raw] => do
    some {
      name := ← required string? name
      parameters := ← defaulted [] (list? (Parameter.ofJson? form)) parameters
      returns := ← defaulted .unit (ReturnType.ofJson? form) returns
      metadata := ← defaulted {} (MethodMetadata.ofJson? form) metadata
      rawBackendErrors := ← defaulted false bool? raw }
  | _ => none

def InterfaceMetadata.ofJson? (j : Json) : Option InterfaceMetadata :=
  match form.record? ["namespace", "schema", "fetch_size"] j with
  | some [package, schema, fetchSize] => do
    some {
      package := ← optional string? package
      schema := ← optional string? schema
      fetchSize := ← optional uint32? fetchSize }
  | _ => none

def Interface.ofJson? (j : Json) : Option Interface :=
  match form.record? ["name", "metadata", "methods"] j with
  | some [name, metadata, methods] => do
    some {
      name := ← required string? name
      metadata := ← defaulted {} (InterfaceMetadata.ofJson? form) metadata
      methods := ← defaulted [] (list? (Method.ofJson? form)) methods }
  | _ => none

end ProcCall
