/-! # Placeholders

A call names its procedure and has a placeholder for each parameter. Inputs fill the
placeholders in order and pass over the one of the output.
-/

namespace ProcCall

/-- The placeholders of `arity` inputs, counted from 1. -/
def inputPositions (arity : Nat) (out : Option Nat) : List Nat :=
  (List.range arity).map fun i =>
    match out with
    | some o => if o ≤ i + 1 then i + 2 else i + 1
    | none => i + 1

/-- Question marks with commas between. -/
def placeholders (count : Nat) : String := ",".intercalate (List.replicate count "?")

/-- A qualifier with its dot. Empty ones are left out. -/
def qualifier : Option String → String
  | none => ""
  | some q => if q = "" then "" else q ++ "."

/-- The call in escape syntax. The count leaves out the result of a function. -/
def callString (package schema : Option String) (name : String) (count : Nat)
    (function : Bool) : String :=
  (if function then "\x7b ? = call " else "\x7bcall ") ++ qualifier package ++ qualifier schema ++
    name ++ "(" ++ placeholders count ++ ")\x7d"

end ProcCall
