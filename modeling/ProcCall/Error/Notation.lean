import ProcCall.Error.Call
import ProcCall.Json.Decode

/-! # Errors as documents

An error is written with its kind, its message and the errors it is made of.
-/

namespace ProcCall

open Json

/-! ## Kinds -/

def BackendFailure.all : List BackendFailure :=
  [.connection, .query, .driver, .notSupported, .notFound, .other]

def BackendFailure.tag : BackendFailure → String
  | .connection => "Connection"
  | .query => "Query"
  | .driver => "Driver"
  | .notSupported => "NotSupported"
  | .notFound => "NotFound"
  | .other => "Other"

def ConfigError.tag : ConfigError → String
  | .unknownMethod _ => "UnknownMethod"
  | .unresolvedParameterName _ _ => "UnresolvedParameterName"
  | .unresolvedOutParameterName _ => "UnresolvedOutParameterName"
  | .unresolvedElementType _ _ => "UnresolvedElementType"
  | .ambiguousOutput _ => "AmbiguousOutput"
  | .missingReturnType _ => "MissingReturnType"
  | .invalidOutIndex _ _ _ => "InvalidOutIndex"
  | .tooManyParameters _ _ => "TooManyParameters"
  | .unsupportedType _ => "UnsupportedType"
  | .unreadable _ => "Toml"

def Fault.tag : Fault → String
  | .config _ => "Config"
  | .incorrectResultSize _ _ => "IncorrectResultSize"
  | .typeMismatch _ _ => "TypeMismatch"
  | .nullElement _ => "NullElement"
  | .noOutParameter => "NoOutParameter"
  | .argumentCount _ _ _ => "ArgumentCount"
  | .argumentShape _ _ => "ArgumentShape"
  | .callFailed _ _ _ => "CallFailed"
  | .backend _ => "Backend"

/-! ## Writing -/

def errorFields (tag message : String) : List (String × Json) :=
  [("error", .str tag), ("message", .str message)]

def BackendError.toJson (e : BackendError) : Json := .obj (errorFields e.kind.tag e.message)

/-- The message of a text that cannot be read is left out. -/
def ConfigError.toJson : ConfigError → Json
  | .unreadable _ => .obj [("error", .str "Toml")]
  | e => .obj (errorFields e.tag e.message)

def Fault.parts : Fault → List (String × Json)
  | .config e => [("config", e.toJson)]
  | _ => []

namespace CallError

def backendPart (e : CallError) : List (String × Json) :=
  match e.backend? with
  | some b => [("backend", b.toJson)]
  | none => []

mutual

def toJson : CallError → Json
  | .fault f => .obj (errorFields f.tag f.message ++ f.parts ++ backendPart (.fault f))
  | .suppressed p others =>
    .obj (errorFields "Suppressed" p.message ++
      [("primary", p.toJson), ("suppressed", .arr (toItems others))] ++
      backendPart (.suppressed p others))

def toItems : List CallError → List Json
  | [] => []
  | e :: rest => e.toJson :: toItems rest

end

end CallError

/-! ## Reading -/

def BackendError.ofJson? (j : Json) : Option BackendError := do
  let tag ← string? (j.get "kind")
  let kind ← BackendFailure.all.find? fun k => k.tag == tag
  some ⟨kind, ← string? (j.get "message")⟩

def ConfigError.ofJson? (j : Json) : Option ConfigError := do
  let method := string? (j.get "method")
  let index := nat64? (j.get "index")
  match ← string? (j.get "kind") with
  | "UnknownMethod" => some (.unknownMethod (← method))
  | "UnresolvedParameterName" => some (.unresolvedParameterName (← method) (← index))
  | "UnresolvedOutParameterName" => some (.unresolvedOutParameterName (← method))
  | "UnresolvedElementType" =>
    some (.unresolvedElementType (← method) (← nullable nat64? (j.get "index")))
  | "AmbiguousOutput" => some (.ambiguousOutput (← method))
  | "MissingReturnType" => some (.missingReturnType (← method))
  | "InvalidOutIndex" => some (.invalidOutIndex (← method) (← index) (← nat64? (j.get "max")))
  | "TooManyParameters" => some (.tooManyParameters (← method) (← nat64? (j.get "count")))
  | "UnsupportedType" => some (.unsupportedType (← string? (j.get "type")))
  | _ => none

def Fault.ofJson? (tag : String) (j : Json) : Option Fault := do
  let text (name : String) := string? (j.get name)
  let count (name : String) := nat64? (j.get name)
  match tag with
  | "Config" => some (.config (← ConfigError.ofJson? (j.get "config")))
  | "IncorrectResultSize" => some (.incorrectResultSize (← count "expected") (← count "actual"))
  | "TypeMismatch" => some (.typeMismatch (← text "expected") (← text "actual"))
  | "NullElement" => some (.nullElement (← count "index"))
  | "NoOutParameter" => some .noOutParameter
  | "ArgumentCount" =>
    some (.argumentCount (← text "method") (← count "expected") (← count "actual"))
  | "ArgumentShape" => some (.argumentShape (← count "index") (← text "expected"))
  | "CallFailed" =>
    let source ← BackendError.ofJson? (j.get "source")
    some (.callFailed (← text "procedure") (← text "call") source)
  | "Backend" => some (.backend (← BackendError.ofJson? (j.get "source")))
  | _ => none

/-- Reads errors that are nested at most `depth` deep. -/
def CallError.ofJsonWithin? : Nat → Json → Option CallError
  | 0, _ => none
  | depth + 1, j => do
    match ← string? (j.get "kind") with
    | "Suppressed" =>
      let primary ← ofJsonWithin? depth (j.get "primary")
      let others ← listOrNull? (ofJsonWithin? depth) (j.get "suppressed")
      some (.suppressed primary others)
    | "With" =>
      let base ← ofJsonWithin? depth (j.get "base")
      let more ← listOrNull? (ofJsonWithin? depth) (j.get "more")
      some (base.withSuppressed more)
    | tag => (Fault.ofJson? tag j).map .fault

/-- Documents are not nested deeper than their reader allows. -/
def CallError.ofJson? (j : Json) : Option CallError := ofJsonWithin? 128 j

end ProcCall
