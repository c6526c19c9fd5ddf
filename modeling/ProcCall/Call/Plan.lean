import ProcCall.Call.Descriptor
import ProcCall.Call.Placeholder

/-! # Planning calls

The descriptor of a method follows from its declaration, the defaults of its interface
and the configuration of the caller. A declaration that gives no call fails with the
first cause, in the order of the steps of `Plan.descriptor`.
-/

namespace ProcCall

/-- Where the result slot is. -/
inductive OutputSlot where
  | none
  | returnValue (spec : ReturnValue)
  | outParameter (spec : OutParameter) (index : Nat)
  deriving DecidableEq, Repr

namespace OutputSlot

/-- The position of the result; functions have it first. -/
def position? : OutputSlot → Option Nat
  | none => .none
  | returnValue _ => some 1
  | outParameter _ i => some i

def isFunction : OutputSlot → Bool
  | returnValue _ => true
  | _ => false

/-- The placeholders between the brackets of the call. -/
def placeholders (arity : Nat) : OutputSlot → Nat
  | outParameter _ _ => arity + 1
  | _ => arity

/-- All positions, that of the result included. -/
def positions (arity : Nat) : OutputSlot → Nat
  | none => arity
  | _ => arity + 1

end OutputSlot

namespace Plan

/-- A position is a byte, and its first and last values are not used. -/
def maxPosition : Nat := 254

variable (config : CallerConfig) (m : Method)

def arity : Nat := m.valueParameters.length

/-- A position that is bound or registered has to be usable. -/
def usablePosition (position : Nat) : Except ConfigError Nat :=
  if maxPosition < position then .error (.tooManyParameters m.name position) else .ok position

/-! ## Output -/

def outputSlot : Except ConfigError OutputSlot :=
  match m.metadata.outParameter, m.metadata.returnValue with
  | some _, some _ => .error (.ambiguousOutput m.name)
  | some spec, none =>
    let index := (spec.index.map UInt64.toNat).getD (arity m + 1)
    if index = 0 ∨ arity m + 1 < index then
      .error (.invalidOutIndex m.name index (arity m + 1))
    else .ok (.outParameter spec index)
  | none, some spec => .ok (.returnValue spec)
  | none, none => .ok .none

/-- A result slot needs a result. -/
def checkReturn (out : OutputSlot) : Except ConfigError Unit :=
  if out ≠ .none ∧ m.returns = .unit then .error (.missingReturnType m.name) else .ok ()

def checkPositions (out : OutputSlot) : Except ConfigError Unit :=
  if maxPosition < out.positions (arity m) then
    .error (.tooManyParameters m.name (out.positions (arity m)))
  else .ok ()

def returnType : Except ConfigError SqlType :=
  match m.returns with
  | .unit => .error (.missingReturnType m.name)
  | .scalar kind => config.mapping.ofKind kind
  | .list _ => .ok .refCursor
  | .array _ => .ok .array

def outputType (declared : Option SqlType) : Except ConfigError SqlType :=
  match declared with
  | some t => .ok t
  | none => returnType config m

def registrar (name : Option String) (index : Nat) (type : SqlType) :
    Except ConfigError Registrar :=
  match name with
  | some s => .ok (.byName s type)
  | none => (usablePosition m index).map fun i => .byIndex i type

def output : OutputSlot → Except ConfigError Registrar
  | .none => .ok .none
  | .returnValue spec => outputType config m spec.sqlType >>= registrar m spec.name 1
  | .outParameter spec index =>
    if spec.name = none ∧ config.binding.byName = true then
      .error (.unresolvedOutParameterName m.name)
    else outputType config m spec.sqlType >>= registrar m spec.name index

/-! ## Inputs -/

/-- Row mappers are never bound; their type only keeps the positions in step. -/
def parameterType (p : Parameter) : Except ConfigError SqlType :=
  match p.metadata.sqlType with
  | some t => .ok t
  | none => if p.type.isRowMapper then .ok .null else config.mapping.ofType p.type

def parameterTypes : Except ConfigError (List SqlType) :=
  m.parameters.mapM (parameterType config)

def parameterName (i : Nat) (p : Parameter) : Except ConfigError String :=
  match p.metadata.name, p.name with
  | some s, _ => .ok s
  | none, some s => .ok (config.parameterNaming.apply s)
  | none, none => .error (.unresolvedParameterName m.name i)

/-- The names of the parameters from the ith on. -/
def namesFrom (i : Nat) : List Parameter → Except ConfigError (List (Option String))
  | [] => .ok []
  | p :: rest => do
    let name ← if p.isBound then (parameterName config m i p).map some else .ok none
    let names ← namesFrom (i + 1) rest
    .ok (name :: names)

/-- The positions of the inputs at the parameters that are bound. -/
def place : List Parameter → List Nat → List (Option Nat)
  | [], _ => []
  | p :: rest, positions =>
    if p.isBound then positions.head? :: place rest positions.tail
    else none :: place rest positions

def parameterPositions (out : Option Nat) : List (Option Nat) :=
  place m.parameters (inputPositions (arity m) out)

def usablePositions (out : Option Nat) : Except ConfigError (List (Option Nat)) :=
  (parameterPositions m out).mapM fun position => position.mapM (usablePosition m)

def binder (out : Option Nat) : Except ConfigError Binder :=
  if arity m = 0 then .ok .noParameters
  else
    match config.binding with
    | .indexOnly => (usablePositions m out).map .byIndex
    | .indexAndType => do
      let types ← parameterTypes config m
      let positions ← usablePositions m out
      .ok (.byIndexAndType positions types)
    | .nameOnly => do
      let names ← namesFrom config m 0 m.parameters
      .ok (.byName names)
    | .nameAndType => do
      let types ← parameterTypes config m
      let names ← namesFrom config m 0 m.parameters
      .ok (.byNameAndType names types)

/-! ## Result -/

def fetchSize (defaults : InterfaceMetadata) : Option UInt32 :=
  m.metadata.fetchSize.or (defaults.fetchSize.or config.fetchSize)

def extractor (defaults : InterfaceMetadata) : Except ConfigError Extractor :=
  match m.returns with
  | .unit => .ok (.void config.voidResults)
  | .scalar kind => .ok (.scalar kind)
  | .array element => .ok (.array element)
  | .list element =>
    match m.parameters.findIdx? (fun p => p.type.isRowMapper), element with
    | some mapper, _ => .ok (.mappedList mapper (fetchSize config m defaults))
    | none, some kind => .ok (.scalarList kind (fetchSize config m defaults))
    | none, none => .error (.unresolvedElementType m.name none)

/-! ## Arrays -/

/-- The declaration comes first, then the kind of the elements, then the naming rule. -/
def elementTypeName (i : Nat) (p : Parameter) : Except ConfigError String :=
  match p.metadata.typeName, p.type.elementKind? with
  | some name, _ => .ok name
  | none, some kind => (config.mapping.ofKind kind).map SqlType.name
  | none, none =>
    match config.elementNaming.bind fun n => n.name? m.name i p with
    | some name => .ok name
    | none => .error (.unresolvedElementType m.name (some i))

/-- The slots of the array parameters among those given with their positions. -/
def arraySlotsOf : List (Nat × Parameter) → Except ConfigError (List ArraySlot)
  | [] => .ok []
  | (i, p) :: rest =>
    if p.type.isArray then do
      let typeName ← elementTypeName config m i p
      let slots ← arraySlotsOf rest
      .ok (⟨i, typeName⟩ :: slots)
    else arraySlotsOf rest

def arraySlots : Except ConfigError (List ArraySlot) := arraySlotsOf config m m.valueParameters

/-- The descriptor of a method. -/
def descriptor (defaults : InterfaceMetadata) : Except ConfigError Descriptor := do
  let out ← outputSlot m
  checkReturn m out
  checkPositions m out
  let inputs ← binder config m out.position?
  let output ← output config m out
  let extractor ← extractor config m defaults
  let arraySlots ← arraySlots config m
  let procedureName := m.metadata.procedureName.getD (config.procedureNaming.apply m.name)
  let package := m.metadata.package.or (defaults.package.or config.package)
  let schema := m.metadata.schema.or (defaults.schema.or config.schema)
  .ok {
    method := m.name
    procedureName
    callString :=
      callString package schema procedureName (out.placeholders (arity m)) out.isFunction
    parameterCount := m.parameters.length
    wrapsFailures := !m.rawBackendErrors
    inputs := if arraySlots.isEmpty then inputs else .resourceBacked inputs
    output
    extractor
    arraySlots }

end Plan

end ProcCall
