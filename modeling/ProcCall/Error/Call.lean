import ProcCall.Error.Backend
import ProcCall.Error.Config

/-! # Call errors

A call fails with a fault. When releasing what the call held fails as well, the later
failures are kept beside the first.
-/

namespace ProcCall

inductive Fault where
  | config (e : ConfigError)
  | incorrectResultSize (expected actual : Nat)
  | typeMismatch (expected actual : String)
  /-- A NULL in an array whose declared elements are not nullable. -/
  | nullElement (index : Nat)
  | noOutParameter
  | argumentCount (method : String) (expected actual : Nat)
  | argumentShape (index : Nat) (expected : String)
  /-- A database failure together with the call it belongs to. -/
  | callFailed (procedure call : String) (source : BackendError)
  | backend (source : BackendError)
  deriving DecidableEq, Repr

inductive CallError where
  | fault (f : Fault)
  | suppressed (primary : CallError) (others : List CallError)
  deriving Repr

namespace Fault

def message : Fault → String
  | config e => "Configuration error: " ++ e.message
  | incorrectResultSize expected actual =>
    "incorrect result size: expected " ++ toString expected ++ ", actual " ++ toString actual
  | typeMismatch expected actual =>
    "type mismatch: expected " ++ expected ++ ", got " ++ actual
  | nullElement i =>
    "array element " ++ toString i ++
      " is NULL but the declared element type is not nullable"
  | noOutParameter => "no output parameter is registered to read the result from"
  | argumentCount m expected actual =>
    m ++ " takes " ++ toString expected ++ " arguments, " ++ toString actual ++ " supplied"
  | argumentShape i expected => "argument " ++ toString i ++ " must be a " ++ expected
  | callFailed procedure call source =>
    "call to " ++ procedure ++ " using \"" ++ call ++ "\" failed: " ++ source.message
  | backend source => source.message

/-- The database failure behind the fault. -/
def backend? : Fault → Option BackendError
  | callFailed _ _ source | backend source => some source
  | _ => none

end Fault

namespace CallError

mutual

def decEq : (a b : CallError) → Decidable (a = b)
  | .fault f, .fault g => decidable_of_iff (f = g) (by simp)
  | .fault _, .suppressed _ _ | .suppressed _ _, .fault _ => isFalse (by simp)
  | .suppressed p xs, .suppressed q ys =>
    have := decEq p q
    have := decEqList xs ys
    decidable_of_iff (p = q ∧ xs = ys) (by simp)

def decEqList : (xs ys : List CallError) → Decidable (xs = ys)
  | [], [] => isTrue rfl
  | [], _ :: _ => isFalse (by simp)
  | _ :: _, [] => isFalse (by simp)
  | x :: xs, y :: ys =>
    have := decEq x y
    have := decEqList xs ys
    decidable_of_iff (x = y ∧ xs = ys) (by simp)

end

instance : DecidableEq CallError := decEq

def message : CallError → String
  | fault f => f.message
  | suppressed p _ => p.message

/-- The failure that came first. -/
def primary : CallError → CallError
  | fault f => fault f
  | suppressed p _ => p

/-- The failures that came after it. -/
def others : CallError → List CallError
  | fault _ => []
  | suppressed _ es => es

def backend? (e : CallError) : Option BackendError :=
  match e.primary with
  | fault f => f.backend?
  | suppressed _ _ => none

/-- Keeps further failures beside the first. -/
def withSuppressed (e : CallError) : List CallError → CallError
  | [] => e
  | more => suppressed e.primary (e.others ++ more)

/-- The first failure and the later ones in one list. -/
def failures (e : CallError) : List CallError := e.primary :: e.others

/-- The failures of a release as one error. -/
def ofFailures : List CallError → Except CallError Unit
  | [] => .ok ()
  | e :: more => .error (e.withSuppressed more)

abbrev backend (e : BackendError) : CallError := fault (.backend e)

end CallError

/-- The outcome of work followed by a release: a failed release never hides an earlier
failure and is never hidden. -/
def mergeRelease {α : Type} : Except CallError α → Except CallError Unit → Except CallError α
  | .ok a, .ok () => .ok a
  | .ok _, .error e => .error e
  | .error e, .ok () => .error e
  | .error e, .error late => .error (e.withSuppressed [late])

end ProcCall
