import ProcCall.Database.Slot
import ProcCall.Error.Backend
import ProcCall.Sql.Type
import ProcCall.Value.Row

/-! # A scripted database

The database answers each call string by its script and keeps a record of every call it
prepared and every array it knows.
-/

namespace ProcCall

/-- How a parameter was bound. -/
inductive Binding where
  | value (v : Value)
  | typed (v : Value) (t : SqlType)
  | null (t : SqlType)
  | array (typeName : String)
  deriving DecidableEq, Repr

/-- The value that was bound; arrays have none. -/
def Binding.value? : Binding → Option Value
  | value v | typed v _ => some v
  | null _ => some .null
  | array _ => none

/-- What happened to one prepared call. -/
structure CallRecord where
  call : String
  /-- In the order of binding. -/
  bindings : List (Slot × Binding) := []
  registered : List (Slot × SqlType) := []
  fetchSize : Option UInt32 := none
  executed : Bool := false
  closed : Bool := false
  /-- The row set has been handed out. -/
  rowsTaken : Bool := false
  deriving DecidableEq, Repr

namespace CallRecord

/-- The last binding of a slot. -/
def binding? (r : CallRecord) (s : Slot) : Option Binding := r.bindings.reverse.lookup s

def boundSlots (r : CallRecord) : List Slot := r.bindings.map Prod.fst

def isRegistered (r : CallRecord) (s : Slot) : Bool := r.registered.any fun e => e.1 == s

end CallRecord

structure ArrayData where
  typeName : String
  element : ArrayElement
  elements : List Value
  deriving DecidableEq, Repr

structure ArrayRecord where
  data : ArrayData
  freeCount : Nat := 0
  /-- Made for an argument; the others were handed out as results. -/
  byClient : Bool
  deriving DecidableEq, Repr

/-- What the database does when a call is executed. -/
structure Script where
  rows : Option (List Row) := none
  /-- Rows that carry one array each, after the plain ones. -/
  resultArrays : List ArrayData := []
  /-- What is written into output slots; the first entry of a slot counts. -/
  outValues : List (Slot × Value) := []
  outRows : Option (List Row) := none
  outArray : Option ArrayData := none
  error : Option BackendError := none
  prepareError : Option BackendError := none
  closeError : Option BackendError := none
  deriving DecidableEq, Repr

def Script.hasRows (s : Script) : Bool := s.rows.isSome || !s.resultArrays.isEmpty

structure Database where
  /-- The first script of a call string counts. -/
  scripts : List (String × Script) := []
  calls : List CallRecord := []
  arrays : List ArrayRecord := []
  /-- Arrays, by their number, whose release fails. -/
  freeFailures : List (Nat × String) := []
  /-- The array creation that fails, counted from 0. -/
  arrayCreationFailure : Option (Nat × String) := none
  clientArraysCreated : Nat := 0
  /-- Output values come as they are stored. -/
  untyped : Bool := false
  /-- Left to the driver, which may keep a number for each call. -/
  marks : List (Nat × Nat) := []
  deriving DecidableEq, Repr

namespace Database

def script (db : Database) (call : String) : Script := (db.scripts.lookup call).getD {}

def record? (db : Database) (call : Nat) : Option CallRecord := db.calls[call]?

def update (db : Database) (call : Nat) (f : CallRecord → CallRecord) : Database :=
  { db with calls := db.calls.modify call f }

def lastCall? (db : Database) : Option CallRecord := db.calls.getLast?

def preparedCalls (db : Database) : List String := db.calls.map CallRecord.call

end Database

/-! ## Handles -/

/-- A prepared call. -/
structure Statement where
  call : Nat
  script : Script
  deriving DecidableEq, Repr

/-- An array of the database. It must be released exactly once. -/
structure ArrayHandle where
  id : Nat
  data : ArrayData
  byClient : Bool
  deriving DecidableEq, Repr

/-- Rows that are read front to back. -/
structure RowSet where
  rows : List Row
  /-- One array a row, after the plain rows. -/
  arrays : List ArrayData
  /-- Left to the driver. -/
  mark : Nat := 0
  deriving DecidableEq, Repr

/-- An array that is read as a plain row. -/
def ArrayData.toRow (a : ArrayData) : Row := .ofValues [.array a.elements]

namespace RowSet

/-- The rows that are left. -/
def pending (r : RowSet) : List Row := r.rows ++ r.arrays.map ArrayData.toRow

def advance (r : RowSet) : Option Row × RowSet :=
  match r.rows, r.arrays with
  | row :: rest, _ => (some row, { r with rows := rest })
  | [], a :: rest => (some a.toRow, { r with arrays := rest })
  | [], [] => (none, r)

end RowSet

end ProcCall
