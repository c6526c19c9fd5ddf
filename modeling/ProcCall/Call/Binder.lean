import ProcCall.Call.Lease

/-! # Binding inputs

A binder knows the slot of every argument and, when types go along, its SQL type.
-/

namespace ProcCall

/-- The lists have an entry for every argument; row mappers have no slot. -/
inductive Binder where
  | noParameters
  | byIndex (positions : List (Option Nat))
  | byIndexAndType (positions : List (Option Nat)) (types : List SqlType)
  | byName (names : List (Option String))
  | byNameAndType (names : List (Option String)) (types : List SqlType)
  /-- Binds the arrays made for arguments and leaves the others to the inner binder. -/
  | resourceBacked (inner : Binder)
  deriving DecidableEq, Repr

namespace Binder

/-- The slot of an argument that is bound. -/
def slot? : Binder → Nat → Option Slot
  | noParameters, _ => none
  | byIndex positions, i | byIndexAndType positions _, i => positions[i]?.join.map Slot.index
  | byName names, i | byNameAndType names _, i => names[i]?.join.map Slot.name
  | resourceBacked inner, i => inner.slot? i

def sqlType? : Binder → Nat → Option SqlType
  | byIndexAndType _ types, i | byNameAndType _ types, i => types[i]?
  | resourceBacked inner, i => inner.sqlType? i
  | _, _ => none

variable (d : Driver) (stmt : Statement)

def bindValue (slot : Slot) (type : Option SqlType) (v : Value) : Action BackendError Unit :=
  match type with
  | none => d.setValue stmt slot v
  | some t => if v = .null then d.setNull stmt slot t else d.setTyped stmt slot v t

/-- Binds an argument by its value; row mappers have none. -/
def bindArgument (b : Binder) (i : Nat) (a : Argument) : Action CallError Unit :=
  match b.slot? i, a with
  | none, _ => pure ()
  | some slot, .value v => (bindValue d stmt slot (b.sqlType? i) v).asCall
  | some _, .mapper _ => Action.fault (.argumentShape i "value")

/-- Binds an argument by the array that was made for it. -/
def bindArray (b : Binder) (i : Nat) (array : ArrayHandle) : Action CallError Unit :=
  match b.slot? i with
  | none => pure ()
  | some slot => (d.setArray stmt slot array).asCall

/-- Takes a step for each argument from the ith on, up to the first that fails. -/
def bindEach (step : Nat → Argument → Action CallError Unit) (i : Nat) :
    List Argument → Action CallError Unit
  | [] => pure ()
  | a :: rest => do
    step i a
    bindEach step (i + 1) rest

/-- Binds the arguments in the order of declaration. -/
def bind (b : Binder) (args : List Argument) (leases : List ArrayLease) :
    Action CallError Unit :=
  match b with
  | noParameters => pure ()
  | resourceBacked inner =>
    let held := ArrayLease.Holding.ofLeases leases
    bindEach (fun i a =>
      match held.arrayFor? i with
      | some array => inner.bindArray d stmt i array
      | none => inner.bindArgument d stmt i a) 0 args
  | b => bindEach (b.bindArgument d stmt) 0 args

end Binder

end ProcCall
