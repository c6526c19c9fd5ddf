import ProcCall.Json.Basic

/-! # Tables of TOML

A document names its tables in three ways: by a header of their own, by being on the way
to a longer header, and by dotted keys. A table may be extended only in the way it was
begun, and no key is given twice.
-/

namespace ProcCall.Toml

/-- How a table came about. -/
inductive Origin where
  | header | onTheWay | dotted
  deriving DecidableEq, Repr

inductive Node where
  /-- A finished value; arrays and inline tables are closed. -/
  | value (j : Json)
  | table (origin : Origin) (fields : List (String × Node))
  /-- The tables of an array, the last one first. -/
  | tables (rows : List (List (String × Node)))

abbrev Fields := List (String × Node)

/-- A key with its value. All parts but the last name tables. -/
structure Entry where
  path : List String
  key : String
  value : Json

namespace Fields

/-- The field under a key takes the new content, at the end if it is new. -/
def put (key : String) (node : Node) : Fields → Fields
  | [] => [(key, node)]
  | (k, n) :: rest => if k = key then (key, node) :: rest else (k, n) :: put key node rest

/-- Adds a value below a path of dotted tables. Tables on the path may come from longer
headers, but the last one is dotted itself. -/
def insert (fields : Fields) (path : List String) (key : String) (j : Json) : Option Fields :=
  match path with
  | [] => if (fields.lookup key).isSome then none else some (put key (.value j) fields)
  | p :: rest =>
    match fields.lookup p with
    | none => (insert [] rest key j).map fun sub => put p (.table .dotted sub) fields
    | some (.table origin sub) =>
      if origin = .header ∨ (rest = [] ∧ origin ≠ .dotted) then none
      else (insert sub rest key j).map fun sub => put p (.table origin sub) fields
    | some (.tables (row :: older)) =>
      if rest = [] then none
      else (insert row rest key j).map fun row => put p (.tables (row :: older)) fields
    | some (.tables []) | some (.value _) => none

def insertAll (fields : Fields) (entries : List Entry) : Option Fields :=
  entries.foldlM (fun fs e => insert fs e.path e.key e.value) fields

/-- Changes what stands at the end of a header; tables on the way are made as needed. -/
def alter (change : Option Node → Option Node) (fields : Fields) :
    (path : List String) → (key : String) → Option Fields
  | [], key => (change (fields.lookup key)).map fun n => put key n fields
  | p :: rest, key =>
    match fields.lookup p with
    | none => (alter change [] rest key).map fun sub => put p (.table .onTheWay sub) fields
    | some (.table origin sub) =>
      (alter change sub rest key).map fun sub => put p (.table origin sub) fields
    | some (.tables (row :: older)) =>
      (alter change row rest key).map fun row => put p (.tables (row :: older)) fields
    | some (.tables []) | some (.value _) => none

/-- A table under its own header, which may have been on the way to others before. -/
def openTable (entries : List Entry) : Option Node → Option Node
  | none => (insertAll [] entries).map (.table .header)
  | some (.table .onTheWay fields) => (insertAll fields entries).map (.table .header)
  | some _ => none

/-- One more table of an array. -/
def openRow (entries : List Entry) : Option Node → Option Node
  | none => (insertAll [] entries).map fun row => .tables [row]
  | some (.tables rows) => (insertAll [] entries).map fun row => .tables (row :: rows)
  | some _ => none

end Fields

mutual

def Node.toJson : Node → Json
  | .value j => j
  | .table _ fields => Json.object (fieldsToJson fields)
  | .tables rows => .arr (rowsToJson rows).reverse

def fieldsToJson : List (String × Node) → List (String × Json)
  | [] => []
  | (k, n) :: rest => (k, n.toJson) :: fieldsToJson rest

def rowsToJson : List (List (String × Node)) → List Json
  | [] => []
  | row :: rest => Json.object (fieldsToJson row) :: rowsToJson rest

end

/-- The document with the given tables. -/
def Fields.toJson (fields : Fields) : Json := Json.object (fieldsToJson fields)

end ProcCall.Toml
