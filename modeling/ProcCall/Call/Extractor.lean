import ProcCall.Call.Argument
import ProcCall.Call.Registrar
import ProcCall.Config.Basic

/-! # Results

An extractor executes a prepared call and reads its result from the rows it produced or
from the output slot.
-/

namespace ProcCall

inductive Extractor where
  /-- No result; the policy says what becomes of rows. -/
  | void (policy : VoidPolicy)
  /-- One value, from the only row or from the output slot. -/
  | scalar (kind : ScalarKind)
  /-- The first column of every row. -/
  | scalarList (kind : ScalarKind) (fetchSize : Option UInt32)
  /-- Every row through the row mapper at an argument. -/
  | mappedList (mapper : Nat) (fetchSize : Option UInt32)
  /-- A database array, copied and released. -/
  | array (element : ArrayElement)
  deriving DecidableEq, Repr

namespace Extractor

open Registrar (coerced)

def fetchSize? : Extractor → Option UInt32
  | scalarList _ n | mappedList _ n => n
  | _ => none

/-! ## Rows -/

/-- What all rows come to, if each one could be read. -/
def rowsRead {α : Type} (read : List Row × Option BackendError)
    (use : List Row → Except CallError α) : Except CallError α :=
  match read with
  | (rows, none) => use rows
  | (_, some e) => .error (.backend e)

def discard (policy : VoidPolicy) (rows : List Row) : Except CallError Value :=
  match policy, rows with
  | .reject, _ :: _ => .error (.fault (.incorrectResultSize 0 rows.length))
  | _, _ => .ok .null

def singleValue (kind : ScalarKind) : List Row → Except CallError Value
  | [row] => coerced kind row.first
  | rows => .error (.fault (.incorrectResultSize 1 rows.length))

/-- Maps the rows from the ith on. -/
def mapFrom (map : Row → Nat → Except CallError Value) (i : Nat) :
    List Row → Except CallError (List Value)
  | [] => .ok []
  | row :: rest => do
    let v ← map row i
    let vs ← mapFrom map (i + 1) rest
    .ok (v :: vs)

/-- Rows are mapped as they come, so a row that cannot be mapped fails before a later
row that cannot be read. -/
def collect (map : Row → Nat → Except CallError Value) (read : List Row × Option BackendError) :
    Except CallError Value := do
  let values ← mapFrom map 0 read.1
  match read.2 with
  | some e => .error (.backend e)
  | none => .ok (.array values)

def listed (kind : ScalarKind) (row : Row) (_ : Nat) : Except CallError Value :=
  coerced kind row.first

def mapped (m : RowMapper) (row : Row) (i : Nat) : Except CallError Value :=
  (m.apply row i).mapError CallError.backend

/-! ## Arrays -/

/-- The elements of an array, if they fit the declaration. -/
def convertElements (d : Driver) (handle : ArrayHandle) (declared : ArrayElement) :
    Except CallError Value :=
  let actual := handle.data.element
  if actual.kind ≠ declared.kind then
    .error (.fault (.typeMismatch declared.display actual.display))
  else
    match d.elements handle with
    | .error e => .error (.backend e)
    | .ok elements =>
      if actual.nullable = declared.nullable ∨ declared.nullable = true then .ok (.array elements)
      else
        match elements.findIdx? Value.isNull with
        | some i => .error (.fault (.nullElement i))
        | none => .ok (.array elements)

variable (d : Driver)

def materialize (declared : ArrayElement) (handle : ArrayHandle) : Action CallError Value :=
  (Action.ofExcept (convertElements d handle declared)).thenRelease (d.free handle).asCall

/-- The array of the only row. When there are more rows it is released. -/
def singleArray (rows : RowSet) : Action CallError ArrayHandle := do
  match ← (d.nextArray rows).asCall with
  | (none, _) => Action.fault (.incorrectResultSize 1 0)
  | (some handle, rest) =>
    match d.drain rest with
    | ([], none) => pure handle
    | read =>
      (Action.ofExcept (rowsRead read fun more =>
          .error (.fault (.incorrectResultSize 1 (1 + more.length))))).thenRelease
        (d.free handle).asCall

/-! ## Extraction -/

variable (stmt : Statement)

/-- The rows of the call, else those of the output slot. -/
def listRows (out : Registrar) : Option RowSet → Action CallError RowSet
  | some rows => pure rows
  | none => out.readRows d stmt

/-- Executes the call and takes the rows it produced. -/
def start (x : Extractor) : Action CallError (Option RowSet) := do
  if let some n := x.fetchSize? then (d.setFetchSize stmt n).asCall
  let hasRows ← (d.execute stmt).asCall
  if hasRows then (d.resultSet stmt).asCall else pure none

/-- Reads the result of an executed call. -/
def result (out : Registrar) (args : List Argument) (rows : Option RowSet) :
    Extractor → Action CallError Value
  | void policy =>
    match rows with
    | some rows => Action.ofExcept (rowsRead (d.drain rows) (discard policy))
    | none => pure .null
  | scalar kind =>
    match rows with
    | some rows => Action.ofExcept (rowsRead (d.drain rows) (singleValue kind))
    | none => out.readScalar d stmt kind
  | scalarList kind _ => do
    let rows ← listRows d stmt out rows
    Action.ofExcept (collect (listed kind) (d.drain rows))
  | mappedList mapper _ =>
    match args[mapper]?.bind Argument.mapper? with
    | none => Action.fault (.argumentShape mapper "row mapper")
    | some m => do
      let rows ← listRows d stmt out rows
      Action.ofExcept (collect (mapped m) (d.drain rows))
  | array declared =>
    match rows with
    | some rows => do materialize d declared (← singleArray d rows)
    | none => do
      match ← out.readArray d stmt with
      | some handle => materialize d declared handle
      | none => pure .null

def extract (x : Extractor) (out : Registrar) (args : List Argument) : Action CallError Value := do
  x.result d stmt out args (← x.start d stmt)

end Extractor

end ProcCall
