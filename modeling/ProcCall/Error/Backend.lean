/-! # Database failures -/

namespace ProcCall

inductive BackendFailure where
  | connection | query | driver | notSupported | notFound | other
  deriving DecidableEq, Repr

structure BackendError where
  kind : BackendFailure
  text : String
  deriving DecidableEq, Repr

namespace BackendError

def lead : BackendFailure → String
  | .connection => "Connection error: "
  | .query => "Query error: "
  | .driver => "Driver error: "
  | .notSupported => "Not supported: "
  | .notFound => "Not found: "
  | .other => ""

def message (e : BackendError) : String := lead e.kind ++ e.text

end BackendError

end ProcCall
