import ProcCall.Database.Driver
import ProcCall.Error.Call

/-! # Steps of a call

Database steps fail with call errors, and work is followed by its release whatever
became of it.
-/

namespace ProcCall.Action

variable {α : Type}

/-- A database step as a step of a call. -/
def asCall (step : Action BackendError α) : Action CallError α :=
  ExceptT.adapt CallError.backend step

/-- The release runs after the work, whether it failed or not. -/
def thenRelease (work : Action CallError α) (release : Action CallError Unit) :
    Action CallError α :=
  ExceptT.mk do
    let outcome ← work.run
    let released ← release.run
    pure (mergeRelease outcome released)

/-- A step that has been decided without the database. -/
def ofExcept (outcome : Except CallError α) : Action CallError α :=
  ExceptT.mk (pure outcome)

def fault (f : Fault) : Action CallError α := throw (.fault f)

end ProcCall.Action
