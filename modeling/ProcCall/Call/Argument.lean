import ProcCall.Error.Backend
import ProcCall.Value.Row

/-! # Arguments

An argument is a value or a row mapper. The row mappers that a `RowShape` describes take
values from a row, join them, or fail.
-/

namespace ProcCall

/-- Turns the rows of a result into values. -/
inductive RowMapper where
  | plain (map : Row → Except BackendError Value)
  /-- Also gets the position of the row, counted from 0. -/
  | indexed (map : Row → Nat → Except BackendError Value)

namespace RowMapper

def apply : RowMapper → Row → Nat → Except BackendError Value
  | plain f, row, _ => f row
  | indexed f, row, i => f row i

def describe : RowMapper → String
  | plain _ => "RowMapper"
  | indexed _ => "IndexedRowMapper"

end RowMapper

inductive Argument where
  | value (v : Value)
  | mapper (m : RowMapper)

namespace Argument

def value? : Argument → Option Value
  | value v => some v
  | mapper _ => none

def mapper? : Argument → Option RowMapper
  | mapper m => some m
  | value _ => none

end Argument

/-! ## Described mappers -/

/-- A column, by position or by name. -/
inductive ColumnRef where
  | position (i : Nat)
  | name (s : String)
  deriving DecidableEq, Repr

/-- A column that is missing reads as NULL. -/
def ColumnRef.read (row : Row) : ColumnRef → Value
  | position i => (row.get? i).getD .null
  | name s => (row.getByName? s).getD .null

inductive RowShape where
  | column (c : ColumnRef)
  /-- The texts of the columns with bars between, after the position of the row. -/
  | join (cs : List ColumnRef)
  | fail (text : String)
  /-- Fails at one row and reads the first column of the others. -/
  | failAt (row : Nat) (text : String)
  | values
  | names
  | position
  deriving DecidableEq, Repr

namespace RowShape

/-- A row position as an integer of 64 bits. -/
def positionValue (i : Nat) : Value :=
  match Integer.ofInt? .w64 (Int.bmod i (1 <<< 64)) with
  | some n => .scalar (.int .w64 n)
  | none => .null

/-- The value for a row whose position may be known. -/
def read (shape : RowShape) (row : Row) (index : Option Nat) : Except BackendError Value :=
  match shape with
  | column c => .ok (c.read row)
  | join cs =>
    let lead := match index with
      | some i => toString i ++ ":"
      | none => ""
    .ok (.ofText (lead ++ "|".intercalate (cs.map fun c => (c.read row).display)))
  | fail text => .error ⟨.other, text⟩
  | failAt n text =>
    if index = some n then .error ⟨.query, text⟩ else .ok ((ColumnRef.position 0).read row)
  | values => .ok (.array row.values)
  | names => .ok (.array (row.columns.map Value.ofText))
  | position => .ok ((index.map positionValue).getD .null)

def plain (shape : RowShape) : RowMapper := .plain fun row => shape.read row none

def indexed (shape : RowShape) : RowMapper := .indexed fun row i => shape.read row (some i)

end RowShape

end ProcCall
