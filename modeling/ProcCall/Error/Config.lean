/-! # Configuration errors

Why a declaration gives no call. Every cause but the last is found while a call is
planned, before the database is asked for anything.
-/

namespace ProcCall

inductive ConfigError where
  | unknownMethod (method : String)
  | unresolvedParameterName (method : String) (index : Nat)
  | unresolvedOutParameterName (method : String)
  /-- Of a parameter, or of the result when there is no position. -/
  | unresolvedElementType (method : String) (index : Option Nat)
  | ambiguousOutput (method : String)
  | missingReturnType (method : String)
  | invalidOutIndex (method : String) (index max : Nat)
  | tooManyParameters (method : String) (count : Nat)
  | unsupportedType (what : String)
  /-- A configuration text that cannot be read. -/
  | unreadable (reason : String)
  deriving DecidableEq, Repr

namespace ConfigError

def describeSlot : Option Nat → String
  | some i => "parameter " ++ toString i
  | none => "the return type"

def message : ConfigError → String
  | unknownMethod m => "no method named " ++ m ++ " in the procedure interface"
  | unresolvedParameterName m i =>
    m ++ ": parameter " ++ toString i ++ " has no name and name-based binding is configured"
  | unresolvedOutParameterName m =>
    m ++ ": output parameter has no name and name-based binding is configured"
  | unresolvedElementType m i => m ++ ": cannot resolve the element type of " ++ describeSlot i
  | ambiguousOutput m => m ++ ": declares both an output parameter and a return value"
  | missingReturnType m => m ++ ": declares a return value slot but returns nothing"
  | invalidOutIndex m i n =>
    m ++ ": output index " ++ toString i ++ " is outside 1..=" ++ toString n
  | tooManyParameters m n =>
    m ++ ": " ++ toString n ++ " placeholders exceed the 254 usable positions"
  | unsupportedType what => "no type mapping for " ++ what
  | unreadable reason => "invalid caller configuration: " ++ reason

end ConfigError

end ProcCall
