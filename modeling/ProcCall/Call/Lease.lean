import ProcCall.Call.Argument
import ProcCall.Call.Step

/-! # Array leases

Array arguments are bound through arrays of the database. They are made before the call
is prepared, one for each array argument that is not NULL, and released after it.
-/

namespace ProcCall

/-- An argument that is bound through an array. -/
structure ArraySlot where
  argument : Nat
  typeName : String
  deriving DecidableEq, Repr

/-- The array made for an argument. -/
structure ArrayLease where
  argument : Nat
  array : ArrayHandle
  deriving DecidableEq, Repr

namespace ArrayLease

def describe (l : ArrayLease) : String :=
  "ArrayResource \x7b argument: " ++ toString l.argument ++ ", type_name: " ++
    Text.quoted l.array.data.typeName ++ " \x7d"

/-- The array that was made for an argument. -/
def arrayFor? (leases : List ArrayLease) (argument : Nat) : Option ArrayHandle :=
  (leases.find? fun l => l.argument == argument).map ArrayLease.array

/-- What is held for a call. How arrays are stored follows their number.

The steps of a call hand on the list of the leases, which says the same: a holding is made of it
where arrays are looked up or released. -/
inductive Holding where
  | nothing
  | single (l : ArrayLease)
  | composite (leases : List ArrayLease)
  deriving DecidableEq, Repr

namespace Holding

def ofLeases : List ArrayLease → Holding
  | [] => nothing
  | [l] => single l
  | leases => composite leases

def leases : Holding → List ArrayLease
  | nothing => []
  | single l => [l]
  | composite leases => leases

/-- The array that is held for an argument. -/
def arrayFor? (argument : Nat) : Holding → Option ArrayHandle
  | nothing => none
  | single l => if l.argument = argument then some l.array else none
  | composite leases => ArrayLease.arrayFor? leases argument

def length : Holding → Nat
  | nothing => 0
  | single _ => 1
  | composite leases => leases.length

def describe : Holding → String
  | nothing => "NoResource"
  | single l => "Single(" ++ l.describe ++ ")"
  | composite leases =>
    "Composite([" ++ ", ".intercalate (leases.map ArrayLease.describe) ++ "])"

@[simp] theorem leases_ofLeases (leases : List ArrayLease) : (ofLeases leases).leases = leases := by
  match leases with
  | [] => rfl
  | [_] => rfl
  | _ :: _ :: _ => rfl

/-- How the arrays are stored makes no difference to what is found. -/
theorem arrayFor?_ofLeases (leases : List ArrayLease) (i : Nat) :
    (ofLeases leases).arrayFor? i = ArrayLease.arrayFor? leases i := by
  match leases with
  | [] => rfl
  | [l] => by_cases h : l.argument = i <;> simp [ofLeases, arrayFor?, ArrayLease.arrayFor?, h]
  | _ :: _ :: _ => rfl

end Holding

variable (d : Driver)

/-- Releases every array, in order, and gives the failures. -/
def releaseAll : List ArrayLease → StateM Database (List CallError)
  | [] => pure []
  | l :: rest => do
    let released ← (d.free l.array).run
    let failures ← releaseAll rest
    match released with
    | .ok () => pure failures
    | .error e => pure (.backend e :: failures)

/-- Releases what is held. Fails with the first failure and keeps the others beside it. -/
def Holding.close : Holding → Action CallError Unit
  | nothing => pure ()
  | held => ExceptT.mk (CallError.ofFailures <$> releaseAll d held.leases)

def close (leases : List ArrayLease) : Action CallError Unit := (Holding.ofLeases leases).close d

/-- Releases what has been made and gives up. The failures of the release are taken out of its
error, to stand beside the cause. -/
def abandon (made : List ArrayLease) (e : CallError) : Action CallError (List ArrayLease) :=
  ExceptT.mk do
    match ← (close d made).run with
    | .ok () => pure (.error e)
    | .error release => pure (.error (e.withSuppressed release.failures))

/-- Makes the arrays of the remaining slots. -/
def createFrom (args : List Argument) (made : List ArrayLease) :
    List ArraySlot → Action CallError (List ArrayLease)
  | [] => pure made
  | slot :: rest =>
    match args[slot.argument]? with
    | some (.value (.array elements)) => do
      match ← (d.createArray slot.typeName elements).run with
      | .ok array => createFrom args (made ++ [⟨slot.argument, array⟩]) rest
      | .error e => abandon d made (.backend e)
    | none | some (.value .null) => createFrom args made rest
    | some _ => abandon d made (.fault (.argumentShape slot.argument "array"))

def create (slots : List ArraySlot) (args : List Argument) :
    Action CallError (List ArrayLease) :=
  createFrom d args [] slots

end ArrayLease

end ProcCall
