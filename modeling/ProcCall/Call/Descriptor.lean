import ProcCall.Call.Binder
import ProcCall.Call.Extractor

/-! # Call descriptors

All that is needed to call one method, worked out once. A run makes the arrays, prepares
the call, binds, executes and reads the result; the call is closed and the arrays are
released on every path.
-/

namespace ProcCall

structure Descriptor where
  method : String
  /-- Without qualifiers. -/
  procedureName : String
  callString : String
  /-- All parameters, row mappers too. -/
  parameterCount : Nat
  wrapsFailures : Bool
  inputs : Binder
  output : Registrar
  extractor : Extractor
  /-- The arguments that are bound through arrays. -/
  arraySlots : List ArraySlot
  deriving DecidableEq, Repr

namespace Descriptor

/-- A database failure gets the call it belongs to. -/
def wrapFault (x : Descriptor) : Fault → Fault
  | .backend source => .callFailed x.procedureName x.callString source
  | f => f

def wrapPrimary (x : Descriptor) : CallError → CallError
  | .fault f => .fault (x.wrapFault f)
  | .suppressed p others => .suppressed (x.wrapPrimary p) others

/-- Only the first failure is wrapped, and only if the method asks for it. -/
def wrap (x : Descriptor) (e : CallError) : CallError :=
  if x.wrapsFailures then x.wrapPrimary e else e

variable (d : Driver)

/-- Binds and registers, then executes and reads the result. -/
def run (x : Descriptor) (args : List Argument) (leases : List ArrayLease) (stmt : Statement) :
    Action CallError Value := do
  x.inputs.bind d stmt args leases
  x.output.register d stmt
  x.extractor.extract d stmt x.output args

/-- Prepares the call and closes it after the run. -/
def execute (x : Descriptor) (args : List Argument) (leases : List ArrayLease) :
    Action CallError Value := do
  let stmt ← (d.prepare x.callString).asCall
  (x.run d args leases stmt).thenRelease (d.close stmt).asCall

/-- One call, its first failure wrapped. -/
def invoke (x : Descriptor) (args : List Argument) : Action CallError Value :=
  ExceptT.adapt x.wrap do
    let leases ← ArrayLease.create d x.arraySlots args
    (x.execute d args leases).thenRelease (ArrayLease.close d leases)

end Descriptor

end ProcCall
