import ProcCall.Database.Basic

/-! # Drivers

A driver is what a caller knows of a database: a set of operations. Some need not be
offered; for these the structure has a default.
-/

namespace ProcCall

/-- Steps on a database. What was done before a failure stays done. -/
abbrev Action (ε : Type) := ExceptT ε (StateM Database)

structure Driver where
  name : String
  prepare : String → Action BackendError Statement
  createArray : String → List Value → Action BackendError ArrayHandle
  setValue : Statement → Slot → Value → Action BackendError Unit
  setTyped : Statement → Slot → Value → SqlType → Action BackendError Unit
  setNull : Statement → Slot → SqlType → Action BackendError Unit
  setArray : Statement → Slot → ArrayHandle → Action BackendError Unit
  register : Statement → Slot → SqlType → Action BackendError Unit
  /-- Whether the call produced rows. -/
  execute : Statement → Action BackendError Bool
  /-- The rows the call produced, handed out once. -/
  resultSet : Statement → Action BackendError (Option RowSet)
  outValue : Statement → Slot → SqlType → Action BackendError Value
  outUntyped : Statement → Slot → Action BackendError Value
  /-- Nothing when the database wrote NULL. -/
  outArray : Statement → Slot → Action BackendError (Option ArrayHandle)
  /-- The next row, or nothing at the end, and what is left. -/
  next : RowSet → Except BackendError (Option Row) × RowSet
  elements : ArrayHandle → Except BackendError (List Value)
  free : ArrayHandle → Action BackendError Unit
  setFetchSize : Statement → UInt32 → Action BackendError Unit := fun _ _ => pure ()
  /-- Whether `outValue` converts to the type asked for. -/
  supportsTyped : Database → Bool := fun _ => true
  outRows : Statement → Slot → Action BackendError RowSet := fun _ slot =>
    throw ⟨.notSupported,
      "cursor output parameter " ++ slot.display ++ " not supported by this driver"⟩
  /-- The array in the first column of the next row, and what is left. -/
  nextArray : RowSet → Action BackendError (Option ArrayHandle × RowSet) := fun _ =>
    throw ⟨.notSupported, "array columns not supported by this result set"⟩
  close : Statement → Action BackendError Unit := fun _ => pure ()

namespace Driver

variable (d : Driver)

/-- The rows that at most `n` reads give, and the failure that ended the reading. -/
def readRows : Nat → RowSet → List Row × Option BackendError
  | 0, _ => ([], none)
  | n + 1, r =>
    match d.next r with
    | (.error e, _) => ([], some e)
    | (.ok none, _) => ([], none)
    | (.ok (some row), rest) =>
      let (rows, failure) := readRows n rest
      (row :: rows, failure)

/-- All rows that are left. The read after the last one may fail as well. -/
def drain (r : RowSet) : List Row × Option BackendError := d.readRows (r.pending.length + 1) r

end Driver

end ProcCall
