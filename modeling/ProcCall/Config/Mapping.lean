import ProcCall.Interface.Basic
import ProcCall.Error.Config

/-! # Type mappings

A mapping gives the SQL type of each scalar kind. Array element names that neither the
declaration nor the mapping supplies come from a naming rule.
-/

namespace ProcCall

namespace TypeMapping

/-- The type of a kind that has to have one. -/
def kindType (scalarType? : ScalarKind → Option SqlType) (k : ScalarKind) :
    Except ConfigError SqlType :=
  match scalarType? k with
  | some t => .ok t
  | none => .error (.unsupportedType k.name)

/-- The type of a parameter; that of a scalar is the type of its kind. -/
def paramType (ofKind : ScalarKind → Except ConfigError SqlType) :
    ParamType → Except ConfigError SqlType
  | .scalar k => ofKind k
  | .array _ | .list _ => .ok .array
  | .rowMapper | .indexedRowMapper => .error (.unsupportedType "row mapper")

end TypeMapping

/-- A mapping need only know the scalar kinds; the rest follows unless it says otherwise. -/
structure TypeMapping where
  /-- For diagnostic text. -/
  name : String
  scalarType? : ScalarKind → Option SqlType
  ofKind : ScalarKind → Except ConfigError SqlType := TypeMapping.kindType scalarType?
  ofType : ParamType → Except ConfigError SqlType := TypeMapping.paramType ofKind

namespace TypeMapping

def standardType? : ScalarKind → Option SqlType
  | .text => some .varchar
  | .int .w8 => some .tinyInt
  | .int .w16 => some .smallInt
  | .int .w32 => some .integer
  | .int .w64 => some .bigInt
  | .decimal => some .numeric
  | .float32 => some .real
  | .float64 => some .double
  | .date => some .date
  | .time => some .time
  | .dateTime => some .timestamp
  | .dateTimeUtc => some .timestampWithTimezone
  | .blob => some .blob
  | .clob => some .clob
  | .bool => some .boolean
  | .bytes | .uuid | .json => none

/-- What most databases understand. -/
def standard : TypeMapping where
  name := "DefaultTypeMapper"
  scalarType? := standardType?

/-- The code of the boolean type of Oracle's procedural language. -/
def oracleBoolean : SqlType := .vendor ⟨252, by decide⟩

/-- Booleans travel as the type of the procedural language. -/
def oracle : TypeMapping where
  name := "OracleTypeMapper"
  scalarType? k := if k = .bool then some oracleBoolean else standardType? k

/-- The listed kinds go where the table says, or nowhere; the others as usual. -/
def table (rows : List (ScalarKind × Option SqlType)) : TypeMapping where
  name := "CustomMapper"
  scalarType? k := (rows.lookup k).getD (standardType? k)

end TypeMapping

/-- A rule that names the element types of arrays after the method and the parameter at a
position. -/
structure ElementNaming where
  name? : (method : String) → (index : Nat) → Parameter → Option String

/-- A pattern for such names: method, position and parameter after a lead. -/
structure ElementPattern where
  lead : String
  /-- The positions of the parameters that get a name; all when absent. -/
  only : Option (List Nat) := none
  deriving DecidableEq, Repr

def ElementPattern.naming (n : ElementPattern) : ElementNaming where
  name? method index p :=
    if n.only.all (·.contains index) then
      some (n.lead ++ method ++ "_" ++ toString index ++ "_" ++ p.name.getD "?")
    else none

end ProcCall
