import ProcCall.Config.Basic
import ProcCall.Interface.Notation

/-! # Configurations as documents

Only the plain settings are written; the type mapping and the naming of array elements
are attached in code.
-/

namespace ProcCall

open Json

def NameCase.all : List NameCase :=
  [.identity, .snake, .upperSnake, .camel, .pascal, .lower, .upper]

def NameCase.tag : NameCase → String
  | .identity => "identity"
  | .snake => "snake"
  | .upperSnake => "upper_snake"
  | .camel => "camel"
  | .pascal => "pascal"
  | .lower => "lower"
  | .upper => "upper"

def ParameterBinding.all : List ParameterBinding :=
  [.indexOnly, .indexAndType, .nameOnly, .nameAndType]

def ParameterBinding.tag : ParameterBinding → String
  | .indexOnly => "index_only"
  | .indexAndType => "index_and_type"
  | .nameOnly => "name_only"
  | .nameAndType => "name_and_type"

def VoidPolicy.all : List VoidPolicy := [.acceptAndIgnore, .reject]

def VoidPolicy.tag : VoidPolicy → String
  | .acceptAndIgnore => "accept_and_ignore"
  | .reject => "reject"

/-! ## Writing -/

def NamingStrategy.toJson (s : NamingStrategy) : Json :=
  .obj [("case", .str s.case.tag), ("prefix", ofOption .str s.lead)]

def CallerConfig.toJson (c : CallerConfig) : Json :=
  .obj [("binding", .str c.binding.tag), ("fetch_size", ofOption ofUInt32 c.fetchSize),
    ("namespace", ofOption .str c.package), ("parameter_naming", c.parameterNaming.toJson),
    ("procedure_naming", c.procedureNaming.toJson), ("schema", ofOption .str c.schema),
    ("void_results", .str c.voidResults.tag)]

/-! ## Reading -/

variable (form : Form)

/-- A choice among names without content. -/
def plainChoice? {α : Type} (all : List α) (tag : α → String) (j : Json) : Option α :=
  (Form.choice? j).bind fun (name, content) =>
    if form.isEmpty content then all.find? fun a => tag a == name else none

def NameCase.ofJson? : Json → Option NameCase := plainChoice? form NameCase.all NameCase.tag

def ParameterBinding.ofJson? : Json → Option ParameterBinding :=
  plainChoice? form ParameterBinding.all ParameterBinding.tag

def VoidPolicy.ofJson? : Json → Option VoidPolicy :=
  plainChoice? form VoidPolicy.all VoidPolicy.tag

def NamingStrategy.ofJson? (j : Json) : Option NamingStrategy :=
  match form.record? ["case", "prefix"] j with
  | some [case, lead] => do
    some {
      case := ← defaulted .identity (NameCase.ofJson? form) case
      lead := ← optional string? lead }
  | _ => none

def CallerConfig.ofJson? (j : Json) : Option CallerConfig :=
  match form.record? ["binding", "procedure_naming", "parameter_naming", "namespace", "schema",
      "fetch_size", "void_results"] j with
  | some [binding, procedureNaming, parameterNaming, package, schema, fetchSize, voidResults] => do
    some {
      binding := ← defaulted .indexOnly (ParameterBinding.ofJson? form) binding
      procedureNaming := ← defaulted {} (NamingStrategy.ofJson? form) procedureNaming
      parameterNaming := ← defaulted {} (NamingStrategy.ofJson? form) parameterNaming
      package := ← optional string? package
      schema := ← optional string? schema
      fetchSize := ← optional uint32? fetchSize
      voidResults := ← defaulted .acceptAndIgnore (VoidPolicy.ofJson? form) voidResults }
  | _ => none

/-! ## What is attached in code -/

def ScalarKind.ofName? (s : String) : Option ScalarKind := ScalarKind.all.find? fun k => k.name == s

/-- A table names its kinds as messages do. -/
def TypeMapping.ofJson? : Json → Option TypeMapping
  | .null | .str "default" => some .standard
  | .str "oracle" => some .oracle
  | .obj [("custom", .obj rows)] =>
    (rows.mapM fun (name, t) => do
      some (← ScalarKind.ofName? name, ← nullable (SqlType.ofJson? jsonForm) t)).map .table
  | _ => none

def ElementPattern.ofJson? (j : Json) : Option ElementPattern := do
  some {
    lead := ← string? (j.get "prefix")
    only := ← nullable (list? nat64?) (j.get "only") }

/-- The settings together with what is attached; null gives the defaults. -/
def CallerConfig.ofFullJson? : Json → Option CallerConfig
  | .null => some {}
  | j => do
    let plain ← CallerConfig.ofJson? jsonForm j
    some { plain with
      mapping := ← TypeMapping.ofJson? (j.get "type_mapper")
      elementNaming := (← nullable ElementPattern.ofJson? (j.get "array_type_names")).map
        ElementPattern.naming }

end ProcCall
