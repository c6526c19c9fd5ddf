import ProcCall.Value.Basic

/-! # Rows

A row of a result: values and the names of their columns. The two lists need not be
equally long.
-/

namespace ProcCall

structure Row where
  columns : List String
  values : List Value
  deriving DecidableEq, Repr

namespace Row

/-- The name that a column without a name gets. -/
def columnName (i : Nat) : String := "col" ++ toString i

def ofValues (values : List Value) : Row :=
  ⟨(List.range values.length).map columnName, values⟩

def get? (r : Row) (i : Nat) : Option Value := r.values[i]?

/-- The value of the first column of that name. -/
def getByName? (r : Row) (name : String) : Option Value :=
  (r.columns.findIdx? (· == name)).bind fun i => r.values[i]?

/-- The value a one-column result is read from. -/
def first (r : Row) : Value := (r.get? 0).getD .null

end Row

end ProcCall
