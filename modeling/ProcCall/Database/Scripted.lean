import ProcCall.Database.Driver

/-! # The scripted driver

Each operation records what it did, then answers by the script of its call.
-/

namespace ProcCall.Scripted

def prepare (call : String) : Action BackendError Statement := do
  let db ← get
  let script := db.script call
  match script.prepareError with
  | some e => throw e
  | none =>
    set { db with calls := db.calls ++ [({ call := call } : CallRecord)] }
    pure ⟨db.calls.length, script⟩

/-- Takes an array into the records. -/
def track (data : ArrayData) (byClient : Bool) : Action BackendError ArrayHandle := do
  let db ← get
  set { db with arrays := db.arrays ++ [({ data := data, byClient := byClient } : ArrayRecord)] }
  pure ⟨db.arrays.length, data, byClient⟩

/-- The kind of the first element that has one. -/
def elementKind (elements : List Value) : ScalarKind := (elements.findSome? Value.kind?).getD .text

def createArray (typeName : String) (elements : List Value) :
    Action BackendError ArrayHandle := do
  let db ← get
  set { db with clientArraysCreated := db.clientArraysCreated + 1 }
  match db.arrayCreationFailure.filter fun f => f.1 = db.clientArraysCreated with
  | some (_, text) => throw ⟨.other, text⟩
  | none => track ⟨typeName, ⟨elementKind elements, true⟩, elements⟩ true

def bind (stmt : Statement) (slot : Slot) (b : Binding) : Action BackendError Unit :=
  if slot = .index 0 then throw ⟨.query, "parameter index 0 is out of range"⟩
  else
    modify fun db =>
      db.update stmt.call fun r => { r with bindings := r.bindings ++ [(slot, b)] }

def register (stmt : Statement) (slot : Slot) (t : SqlType) : Action BackendError Unit :=
  modify fun db =>
    db.update stmt.call fun r => { r with registered := r.registered ++ [(slot, t)] }

def setFetchSize (stmt : Statement) (rows : UInt32) : Action BackendError Unit :=
  modify fun db => db.update stmt.call fun r => { r with fetchSize := some rows }

def execute (stmt : Statement) : Action BackendError Bool := do
  modify fun db => db.update stmt.call fun r => { r with executed := true }
  match stmt.script.error with
  | some e => throw e
  | none => pure stmt.script.hasRows

def resultSet (stmt : Statement) : Action BackendError (Option RowSet) := do
  let db ← get
  if (db.record? stmt.call).any CallRecord.rowsTaken || !stmt.script.hasRows then pure none
  else
    set (db.update stmt.call fun r => { r with rowsTaken := true })
    pure (some { rows := stmt.script.rows.getD [], arrays := stmt.script.resultArrays })

/-- Fails for a slot that was not registered. -/
def requireRegistered (stmt : Statement) (slot : Slot) : Action BackendError Unit := do
  let db ← get
  if (db.record? stmt.call).any fun r => r.isRegistered slot then pure ()
  else throw ⟨.query, "output parameter " ++ slot.describe ++ " was not registered"⟩

/-- A slot without a scripted value gives back what was bound to it. -/
def outputOf (stmt : Statement) (slot : Slot) (db : Database) : Value :=
  match stmt.script.outValues.lookup slot with
  | some v => v
  | none =>
    (((db.record? stmt.call).bind fun r => r.binding? slot).bind Binding.value?).getD .null

def outUntyped (stmt : Statement) (slot : Slot) : Action BackendError Value := do
  requireRegistered stmt slot
  pure (outputOf stmt slot (← get))

def outValue (stmt : Statement) (slot : Slot) (_type : SqlType) : Action BackendError Value := do
  if (← get).untyped then throw ⟨.notSupported, "typed output retrieval"⟩
  else outUntyped stmt slot

def outRows (stmt : Statement) (slot : Slot) : Action BackendError RowSet := do
  requireRegistered stmt slot
  pure { rows := stmt.script.outRows.getD [], arrays := [] }

def outArray (stmt : Statement) (slot : Slot) : Action BackendError (Option ArrayHandle) := do
  requireRegistered stmt slot
  match stmt.script.outArray with
  | some data => some <$> track data false
  | none => pure none

def close (stmt : Statement) : Action BackendError Unit := do
  modify fun db => db.update stmt.call fun r => { r with closed := true }
  match stmt.script.closeError with
  | some e => throw e
  | none => pure ()

def next (r : RowSet) : Except BackendError (Option Row) × RowSet :=
  (.ok r.advance.1, r.advance.2)

def nextArray (r : RowSet) : Action BackendError (Option ArrayHandle × RowSet) :=
  match r.arrays with
  | [] => pure (none, r)
  | data :: rest => do
    let array ← track data false
    pure (some array, { r with arrays := rest })

def free (array : ArrayHandle) : Action BackendError Unit := do
  let db ← get
  if array.id < db.arrays.length then
    set { db with
      arrays := db.arrays.modify array.id fun r => { r with freeCount := r.freeCount + 1 } }
    match db.freeFailures.lookup array.id with
    | some text => throw ⟨.other, text⟩
    | none => pure ()
  else throw ⟨.notFound, "array " ++ toString array.id⟩

/-- All operations by script. -/
def driver : Driver where
  name := "mock"
  prepare := prepare
  createArray := createArray
  setValue stmt slot v := bind stmt slot (.value v)
  setTyped stmt slot v t := bind stmt slot (.typed v t)
  setNull stmt slot t := bind stmt slot (.null t)
  setArray stmt slot array := bind stmt slot (.array array.data.typeName)
  register := register
  execute := execute
  resultSet := resultSet
  outValue := outValue
  outUntyped := outUntyped
  outArray := outArray
  next := next
  elements array := .ok array.data.elements
  free := free
  setFetchSize := setFetchSize
  supportsTyped db := !db.untyped
  outRows := outRows
  nextArray := nextArray
  close := close

/-- Only what a driver must offer; the rest is left to its default. -/
def bareDriver : Driver where
  name := "bare"
  prepare := prepare
  createArray := createArray
  setValue := driver.setValue
  setTyped := driver.setTyped
  setNull := driver.setNull
  setArray := driver.setArray
  register := register
  execute := execute
  resultSet := resultSet
  outValue := outValue
  outUntyped := outUntyped
  outArray := outArray
  next := next
  elements := driver.elements
  free := free

end ProcCall.Scripted
