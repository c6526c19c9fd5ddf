import ProcCall.Database.Scripted

/-! # A driver with planned faults

It fails where the plan says, in place of the step, and otherwise does what the scripted
driver does. To know when, it counts in the marks: how often a parameter of each call has been
bound, and how often a row of each row set has been asked for.
-/

namespace ProcCall

/-- Which operations fail, and with what text. -/
structure FaultPlan where
  /-- The nth time a parameter of a call is bound. -/
  bind : Option (Nat × String) := none
  register : Option String := none
  fetchSize : Option String := none
  resultSet : Option String := none
  nextArray : Option String := none
  outValue : Option String := none
  outRows : Option String := none
  outArray : Option String := none
  /-- Of the arrays that come from results. -/
  elements : Option String := none
  /-- The nth time a row is asked for, the end included. -/
  next : Option (Nat × String) := none
  /-- The row set is taken but not handed on. -/
  noResultSet : Bool := false
  deriving DecidableEq, Repr

namespace FaultPlan

/-- The planned failure in place of the step. -/
def instead {α : Type} (fault : Option String) (step : Action BackendError α) :
    Action BackendError α :=
  match fault with
  | some text => throw ⟨.driver, text⟩
  | none => step

/-- The text of a fault that is planned for the nth time. -/
def atCount (fault : Option (Nat × String)) (n : Nat) : Option String :=
  (fault.filter fun f => f.1 = n).map Prod.snd

variable (plan : FaultPlan)

/-- Counts a binding, then fails or does it. -/
def counted (stmt : Statement) (step : Action BackendError Unit) : Action BackendError Unit := do
  let n := ((← get).marks.lookup stmt.call).getD 0
  modify fun db => { db with marks := (stmt.call, n + 1) :: db.marks }
  instead (atCount plan.bind n) step

def resultRows (stmt : Statement) : Action BackendError (Option RowSet) :=
  instead plan.resultSet do
    let rows ← Scripted.resultSet stmt
    pure (if plan.noResultSet then none else rows)

def nextRow (r : RowSet) : Except BackendError (Option Row) × RowSet :=
  match atCount plan.next r.mark with
  | some text => (.error ⟨.driver, text⟩, { r with mark := r.mark + 1 })
  | none => Scripted.next { r with mark := r.mark + 1 }

def arrayElements (array : ArrayHandle) : Except BackendError (List Value) :=
  match plan.elements.filter fun _ => !array.byClient with
  | some text => .error ⟨.driver, text⟩
  | none => .ok array.data.elements

def driver : Driver :=
  let base := Scripted.driver
  { base with
    name := "faulty"
    setValue := fun stmt slot v => plan.counted stmt (base.setValue stmt slot v)
    setTyped := fun stmt slot v t => plan.counted stmt (base.setTyped stmt slot v t)
    setNull := fun stmt slot t => plan.counted stmt (base.setNull stmt slot t)
    setArray := fun stmt slot array => plan.counted stmt (base.setArray stmt slot array)
    register := fun stmt slot t => instead plan.register (base.register stmt slot t)
    setFetchSize := fun stmt rows => instead plan.fetchSize (base.setFetchSize stmt rows)
    resultSet := plan.resultRows
    outValue := fun stmt slot t => instead plan.outValue (base.outValue stmt slot t)
    outUntyped := fun stmt slot => instead plan.outValue (base.outUntyped stmt slot)
    outRows := fun stmt slot => instead plan.outRows (base.outRows stmt slot)
    outArray := fun stmt slot => instead plan.outArray (base.outArray stmt slot)
    next := plan.nextRow
    nextArray := fun r => instead plan.nextArray (base.nextArray r)
    elements := plan.arrayElements }

end FaultPlan

end ProcCall
