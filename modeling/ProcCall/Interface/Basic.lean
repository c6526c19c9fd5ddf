import ProcCall.Value.Kind
import ProcCall.Sql.Type

/-! # Interfaces of stored procedures

An interface lists the methods that can be called. A method declares its parameters,
what it returns and how it differs from the defaults of the interface and the caller.
-/

namespace ProcCall

inductive ParamType where
  | scalar (kind : ScalarKind)
  /-- Bound through a database array. -/
  | array (element : ArrayElement)
  /-- Bound through a database array whose element kind may be unknown. -/
  | list (kind : Option ScalarKind)
  /-- Shapes the rows of the result and is not bound. -/
  | rowMapper
  /-- Also gets the position of the row. -/
  | indexedRowMapper
  deriving DecidableEq, Repr

namespace ParamType

def isRowMapper : ParamType → Bool
  | rowMapper | indexedRowMapper => true
  | _ => false

def isArray : ParamType → Bool
  | array _ | list _ => true
  | _ => false

def elementKind? : ParamType → Option ScalarKind
  | array e => some e.kind
  | list k => k
  | _ => none

end ParamType

inductive ReturnType where
  | unit
  | scalar (kind : ScalarKind)
  /-- The rows as a list; a row mapper makes the kind unnecessary. -/
  | list (kind : Option ScalarKind)
  | array (element : ArrayElement)
  deriving DecidableEq, Repr

structure ParameterMetadata where
  /-- The name in the database, taken as it is. -/
  name : Option String := none
  sqlType : Option SqlType := none
  /-- The element type name of an array parameter. -/
  typeName : Option String := none
  deriving DecidableEq, Repr

structure Parameter where
  /-- The name in the source, which the naming strategy converts. -/
  name : Option String := none
  type : ParamType
  metadata : ParameterMetadata := {}
  deriving DecidableEq, Repr

/-- The result is read from an output parameter. -/
structure OutParameter where
  /-- The placeholder, counted from 1; the last one when absent. -/
  index : Option UInt64 := none
  name : Option String := none
  sqlType : Option SqlType := none
  deriving DecidableEq, Repr

/-- The result is the value of a function, its first placeholder. -/
structure ReturnValue where
  name : Option String := none
  sqlType : Option SqlType := none
  deriving DecidableEq, Repr

structure MethodMetadata where
  /-- The name of the procedure, taken as it is. -/
  procedureName : Option String := none
  package : Option String := none
  schema : Option String := none
  fetchSize : Option UInt32 := none
  outParameter : Option OutParameter := none
  returnValue : Option ReturnValue := none
  deriving DecidableEq, Repr

structure Method where
  name : String
  parameters : List Parameter := []
  returns : ReturnType := .unit
  metadata : MethodMetadata := {}
  /-- Database failures are passed on without the call they belong to. -/
  rawBackendErrors : Bool := false
  deriving DecidableEq, Repr

structure InterfaceMetadata where
  package : Option String := none
  schema : Option String := none
  fetchSize : Option UInt32 := none
  deriving DecidableEq, Repr

structure Interface where
  name : String
  metadata : InterfaceMetadata := {}
  methods : List Method := []
  deriving DecidableEq, Repr

/-! ## Parameters -/

namespace Parameter

def isBound (p : Parameter) : Bool := !p.type.isRowMapper

def named (name : String) (type : ParamType) : Parameter := { name := some name, type }

def unnamed (type : ParamType) : Parameter := { type }

def withBackendName (p : Parameter) (name : String) : Parameter :=
  { p with metadata.name := some name }

def withSqlType (p : Parameter) (t : SqlType) : Parameter :=
  { p with metadata.sqlType := some t }

def withTypeName (p : Parameter) (name : String) : Parameter :=
  { p with metadata.typeName := some name }

end Parameter

/-! ## Methods -/

namespace Method

/-- The parameters that are bound, each with its position among all. -/
def valueParameters (m : Method) : List (Nat × Parameter) :=
  (m.parameters.zipIdx.map fun (p, i) => (i, p)).filter fun ip => ip.2.isBound

def param (m : Method) (p : Parameter) : Method := { m with parameters := m.parameters ++ [p] }

def withReturns (m : Method) (t : ReturnType) : Method := { m with returns := t }

def withProcedureName (m : Method) (name : String) : Method :=
  { m with metadata.procedureName := some name }

def withPackage (m : Method) (name : String) : Method :=
  { m with metadata.package := some name }

def withSchema (m : Method) (name : String) : Method :=
  { m with metadata.schema := some name }

def withFetchSize (m : Method) (rows : UInt32) : Method :=
  { m with metadata.fetchSize := some rows }

def withOutParameter (m : Method) (out : OutParameter) : Method :=
  { m with metadata.outParameter := some out }

def withReturnValue (m : Method) (out : ReturnValue) : Method :=
  { m with metadata.returnValue := some out }

def withRawBackendErrors (m : Method) : Method := { m with rawBackendErrors := true }

end Method

/-! ## Interfaces -/

namespace Interface

def withPackage (i : Interface) (name : String) : Interface :=
  { i with metadata.package := some name }

def withSchema (i : Interface) (name : String) : Interface :=
  { i with metadata.schema := some name }

def withFetchSize (i : Interface) (rows : UInt32) : Interface :=
  { i with metadata.fetchSize := some rows }

def withMethod (i : Interface) (m : Method) : Interface :=
  { i with methods := i.methods ++ [m] }

/-- The first method of that name. -/
def find? (i : Interface) (name : String) : Option Method :=
  i.methods.find? fun m => m.name == name

end Interface

end ProcCall
