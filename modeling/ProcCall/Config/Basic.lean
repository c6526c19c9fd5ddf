import ProcCall.Naming
import ProcCall.Config.Mapping
import ProcCall.Text.Quoted

/-! # Caller configuration

The settings that all methods of a caller share.
-/

namespace ProcCall

/-- How inputs are addressed, and whether their SQL types go along. -/
inductive ParameterBinding where
  | indexOnly | indexAndType | nameOnly | nameAndType
  deriving DecidableEq, Repr

namespace ParameterBinding

def byName : ParameterBinding → Bool
  | nameOnly | nameAndType => true
  | _ => false

def typed : ParameterBinding → Bool
  | indexAndType | nameAndType => true
  | _ => false

end ParameterBinding

/-- What becomes of rows that a method without a result produces. -/
inductive VoidPolicy where
  | acceptAndIgnore | reject
  deriving DecidableEq, Repr

structure CallerConfig where
  binding : ParameterBinding := .indexOnly
  procedureNaming : NamingStrategy := {}
  parameterNaming : NamingStrategy := {}
  package : Option String := none
  schema : Option String := none
  fetchSize : Option UInt32 := none
  voidResults : VoidPolicy := .acceptAndIgnore
  mapping : TypeMapping := .standard
  elementNaming : Option ElementNaming := none

namespace CallerConfig

def withBinding (c : CallerConfig) (b : ParameterBinding) : CallerConfig := { c with binding := b }

def withProcedureNaming (c : CallerConfig) (s : NamingStrategy) : CallerConfig :=
  { c with procedureNaming := s }

def withParameterNaming (c : CallerConfig) (s : NamingStrategy) : CallerConfig :=
  { c with parameterNaming := s }

def withPackage (c : CallerConfig) (name : String) : CallerConfig := { c with package := some name }

def withSchema (c : CallerConfig) (name : String) : CallerConfig := { c with schema := some name }

def withFetchSize (c : CallerConfig) (rows : UInt32) : CallerConfig :=
  { c with fetchSize := some rows }

def withVoidResults (c : CallerConfig) (p : VoidPolicy) : CallerConfig :=
  { c with voidResults := p }

def withMapping (c : CallerConfig) (m : TypeMapping) : CallerConfig := { c with mapping := m }

def withElementNaming (c : CallerConfig) (n : ElementPattern) : CallerConfig :=
  { c with elementNaming := some n.naming }

end CallerConfig

/-! ## Diagnostic text -/

def NameCase.describe : NameCase → String
  | .identity => "Identity"
  | .snake => "Snake"
  | .upperSnake => "UpperSnake"
  | .camel => "Camel"
  | .pascal => "Pascal"
  | .lower => "Lower"
  | .upper => "Upper"

def NamingStrategy.describe (s : NamingStrategy) : String :=
  "NamingStrategy \x7b case: " ++ s.case.describe ++ ", prefix: " ++ Text.quotedOption s.lead ++
    " \x7d"

def ParameterBinding.describe : ParameterBinding → String
  | .indexOnly => "IndexOnly"
  | .indexAndType => "IndexAndType"
  | .nameOnly => "NameOnly"
  | .nameAndType => "NameAndType"

def VoidPolicy.describe : VoidPolicy → String
  | .acceptAndIgnore => "AcceptAndIgnore"
  | .reject => "Reject"

def describeFetchSize : Option UInt32 → String
  | none => "None"
  | some n => "Some(" ++ toString n.toNat ++ ")"

def CallerConfig.describe (c : CallerConfig) : String :=
  "CallerConfig \x7b binding: " ++ c.binding.describe ++
    ", procedure_naming: " ++ c.procedureNaming.describe ++
    ", parameter_naming: " ++ c.parameterNaming.describe ++
    ", namespace: " ++ Text.quotedOption c.package ++
    ", schema: " ++ Text.quotedOption c.schema ++
    ", fetch_size: " ++ describeFetchSize c.fetchSize ++
    ", void_results: " ++ c.voidResults.describe ++
    ", type_mapper: " ++ c.mapping.name ++
    ", array_type_names: " ++ (if c.elementNaming.isSome then "true" else "false") ++ " \x7d"

end ProcCall
