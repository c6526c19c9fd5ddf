import ProcCall.Call.Step

/-! # The output slot

A registrar registers the slot that the result is read from and reads it after the call.
-/

namespace ProcCall

inductive Registrar where
  /-- The result comes in rows. -/
  | none
  | byIndex (index : Nat) (type : SqlType)
  | byName (name : String) (type : SqlType)
  deriving DecidableEq, Repr

namespace Registrar

def target? : Registrar → Option (Slot × SqlType)
  | none => .none
  | byIndex i t => some (.index i, t)
  | byName s t => some (.name s, t)

def slot? (r : Registrar) : Option Slot := r.target?.map Prod.fst

def sqlType? (r : Registrar) : Option SqlType := r.target?.map Prod.snd

def isRegistered (r : Registrar) : Bool := r.target?.isSome

variable (d : Driver) (stmt : Statement)

def register (r : Registrar) : Action CallError Unit :=
  match r.target? with
  | some (slot, t) => (d.register stmt slot t).asCall
  | .none => pure ()

def require (r : Registrar) : Action CallError (Slot × SqlType) :=
  match r.target? with
  | some target => pure target
  | .none => Action.fault .noOutParameter

/-- A value as a kind. -/
def coerced (kind : ScalarKind) (v : Value) : Except CallError Value :=
  match v.coerce kind with
  | some w => .ok w
  | .none => .error (.fault (.typeMismatch kind.name v.typeName))

/-- Converts here what the driver does not convert. -/
def readScalar (r : Registrar) (kind : ScalarKind) : Action CallError Value := do
  let (slot, t) ← r.require
  let raw ←
    if d.supportsTyped (← get) then (d.outValue stmt slot t).asCall
    else (d.outUntyped stmt slot).asCall
  Action.ofExcept (coerced kind raw)

def readRows (r : Registrar) : Action CallError RowSet := do
  let (slot, _) ← r.require
  (d.outRows stmt slot).asCall

/-- Nothing for a NULL array. -/
def readArray (r : Registrar) : Action CallError (Option ArrayHandle) := do
  let (slot, _) ← r.require
  (d.outArray stmt slot).asCall

end Registrar

end ProcCall
