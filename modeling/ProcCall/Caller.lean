import ProcCall.Call.Plan
import ProcCall.Conversion

/-! # Callers

A caller invokes the methods of one interface. It plans each call once and keeps the
descriptor; a plan that fails is not kept.
-/

namespace ProcCall

structure Caller where
  interface : Interface
  config : CallerConfig
  /-- One entry for each method that has been planned, in that order. -/
  planned : List (String × Descriptor) := []

namespace Caller

/-- The descriptor of the first method of that name. -/
def plan (c : Caller) (method : String) : Except ConfigError Descriptor :=
  match c.interface.find? method with
  | some m => Plan.descriptor c.config m c.interface.metadata
  | none => .error (.unknownMethod method)

/-- The descriptor of a method, from those kept if it is there. -/
def descriptor (c : Caller) (method : String) : Except ConfigError Descriptor × Caller :=
  match c.planned.lookup method with
  | some x => (.ok x, c)
  | none =>
    match c.plan method with
    | .ok x => (.ok x, { c with planned := c.planned ++ [(method, x)] })
    | .error e => (.error e, c)

/-- The outcome of a call with the arguments in the order of declaration. -/
def call (d : Driver) (method : String) (args : List Argument) :
    Except ConfigError Descriptor → Action CallError Value
  | .error e => Action.fault (.config e)
  | .ok x =>
    if args.length = x.parameterCount then x.invoke d args
    else Action.fault (.argumentCount method x.parameterCount args.length)

def invoke (d : Driver) (c : Caller) (method : String) (args : List Argument) :
    StateM Database (Except CallError Value × Caller) := do
  let (found, c') := c.descriptor method
  let outcome ← (call d method args found).run
  pure (outcome, c')

/-- The outcome of a call, converted to the type it is asked for as. -/
def invokeAs (d : Driver) (c : Caller) (target : Target) (method : String)
    (args : List Argument) : StateM Database (Except CallError Converted × Caller) := do
  let (outcome, c') ← c.invoke d method args
  pure (outcome.bind fun v => (target.convert v).mapError CallError.fault, c')

def display (d : Driver) (c : Caller) : String :=
  "ProcedureCaller(" ++ c.interface.name ++ " via " ++ d.name ++ ")"

def describe (d : Driver) (c : Caller) : String :=
  "ProcedureCaller \x7b interface: " ++ Text.quoted c.interface.name ++ ", driver: " ++
    Text.quoted d.name ++ ", cached_descriptors: " ++ toString c.planned.length ++ " \x7d"

end Caller

end ProcCall
