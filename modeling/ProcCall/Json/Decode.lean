import ProcCall.Json.Basic

/-! # Declarations as documents

How records, choices and optional fields stand in a document. JSON and TOML agree on
all but two points, which a `Form` names.
-/

namespace ProcCall.Json

structure Form where
  /-- What may stand under the name of a choice that has no content. -/
  emptyContent : Json → Bool
  /-- A record written as a list has no items beyond its fields. -/
  exactLength : Bool

/-- JSON has a word for nothing. -/
def jsonForm : Form := ⟨fun j => j == .null, true⟩

/-- TOML has not: an empty table or list takes its place. -/
def tomlForm : Form := ⟨fun j => j == .obj [] || j == .arr [], false⟩

namespace Form

/-- The fields of a record, which stand by name or in their order. Names that the record
does not know are passed over. -/
def record? (form : Form) (names : List String) : Json → Option (List (Option Json))
  | .obj fields => some (names.map fun n => field? n fields)
  | .arr items =>
    if form.exactLength && names.length < items.length then none
    else some ((List.range names.length).map fun i => items[i]?)
  | _ => none

/-- A choice by name alone, or by name with a content. -/
def choice? : Json → Option (String × Option Json)
  | .str s => some (s, none)
  | .obj [(name, content)] => some (name, some content)
  | _ => none

/-- The choice has no content. -/
def isEmpty (form : Form) : Option Json → Bool
  | none => true
  | some j => form.emptyContent j

end Form

def string? : Json → Option String
  | .str s => some s
  | _ => none

def bool? : Json → Option Bool
  | .bool b => some b
  | _ => none

/-- A whole number below the bound. -/
def natBelow? (bound : Nat) : Json → Option Nat
  | .int n => if 0 ≤ n ∧ n < bound then some n.toNat else none
  | _ => none

def uint32? (j : Json) : Option UInt32 := (natBelow? (1 <<< 32) j).map UInt32.ofNat

def uint64? (j : Json) : Option UInt64 := (natBelow? (1 <<< 64) j).map UInt64.ofNat

def list? {α : Type} (item : Json → Option α) : Json → Option (List α)
  | .arr items => items.mapM item
  | _ => none

/-! ## Fields -/

variable {α : Type}

/-- A field that must be there. -/
def required (read : Json → Option α) (field : Option Json) : Option α := field.bind read

/-- A field with a value for its absence. -/
def defaulted (value : α) (read : Json → Option α) : Option Json → Option α
  | none => some value
  | some j => read j

/-- A field that may be absent or null. -/
def optional (read : Json → Option α) : Option Json → Option (Option α)
  | none | some .null => some none
  | some j => (read j).map some

/-! ## Loose documents -/

/-- The value under a name, null when there is none. -/
def get (name : String) : Json → Json
  | .obj fields => (field? name fields).getD .null
  | _ => .null

/-- Null stands for absence. -/
def nullable (read : Json → Option α) : Json → Option (Option α)
  | .null => some none
  | j => (read j).map some

/-- Null stands for the empty list. -/
def listOrNull? (item : Json → Option α) : Json → Option (List α)
  | .null => some []
  | j => list? item j

/-- Null stands for false. -/
def boolOrNull? : Json → Option Bool
  | .null => some false
  | j => bool? j

def pair? {β : Type} (first : Json → Option α) (second : Json → Option β) :
    Json → Option (α × β)
  | .arr [a, b] => do some (← first a, ← second b)
  | _ => none

def nat64? (j : Json) : Option Nat := natBelow? (1 <<< 64) j

/-! ## Writing -/

/-- An optional part that is written as null when absent. -/
def ofOption (write : α → Json) : Option α → Json
  | none => .null
  | some a => write a

def ofUInt32 (n : UInt32) : Json := .int n.toNat

def ofUInt64 (n : UInt64) : Json := .int n.toNat

def ofNat (n : Nat) : Json := .int n

def ofList (write : α → Json) (items : List α) : Json := .arr (items.map write)

end ProcCall.Json
