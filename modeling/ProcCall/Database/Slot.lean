import ProcCall.Text.Quoted

/-! # Parameter slots

A parameter of a call is addressed by its position, counted from 1, or by its name.
-/

namespace ProcCall

inductive Slot where
  | index (i : Nat)
  | name (s : String)
  deriving DecidableEq, Repr

namespace Slot

def display : Slot → String
  | index i => "#" ++ toString i
  | name s => s

def describe : Slot → String
  | index i => "Index(" ++ toString i ++ ")"
  | name s => "Name(" ++ Text.quoted s ++ ")"

end Slot

end ProcCall
