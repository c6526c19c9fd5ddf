import ProcCall.Number.Integer

/-! # Scalar kinds

The kinds a scalar can be declared with. The two large-object kinds have no carrier of
their own: binary ones travel as bytes, character ones as text.
-/

namespace ProcCall

inductive ScalarKind where
  | bool
  | int (w : IntWidth)
  | float32 | float64
  | decimal | text | bytes | uuid
  | date | time | dateTime | dateTimeUtc
  | json | blob | clob
  deriving DecidableEq, Repr

namespace ScalarKind

def all : List ScalarKind :=
  [bool, int .w8, int .w16, int .w32, int .w64, float32, float64, decimal, text, bytes, uuid,
    date, time, dateTime, dateTimeUtc, json, blob, clob]

/-- The short name used in messages. -/
def name : ScalarKind → String
  | bool => "bool"
  | int .w8 => "i8"
  | int .w16 => "i16"
  | int .w32 => "i32"
  | int .w64 => "i64"
  | float32 => "f32"
  | float64 => "f64"
  | decimal => "decimal"
  | text => "text"
  | bytes => "bytes"
  | uuid => "uuid"
  | date => "date"
  | time => "time"
  | dateTime => "datetime"
  | dateTimeUtc => "datetime_utc"
  | json => "json"
  | blob => "blob"
  | clob => "clob"

/-- The spelling in declarations. -/
def tag : ScalarKind → String
  | bool => "bool"
  | int .w8 => "int8"
  | int .w16 => "int16"
  | int .w32 => "int32"
  | int .w64 => "int64"
  | float32 => "float32"
  | float64 => "float64"
  | decimal => "decimal"
  | text => "text"
  | bytes => "bytes"
  | uuid => "uuid"
  | date => "date"
  | time => "time"
  | dateTime => "date_time"
  | dateTimeUtc => "date_time_utc"
  | json => "json"
  | blob => "blob"
  | clob => "clob"

def ofTag? (s : String) : Option ScalarKind := all.find? fun k => k.tag == s

theorem ofTag?_tag (k : ScalarKind) : ofTag? k.tag = some k := by
  cases k with
  | int w => cases w <;> decide
  | _ => decide

def isInteger : ScalarKind → Bool
  | int _ => true
  | _ => false

/-- The kind of the values that carry this kind. -/
def carrier : ScalarKind → ScalarKind
  | blob => bytes
  | clob => text
  | k => k

end ScalarKind

/-- The element type of an array. Elements of a type that is not nullable are never NULL. -/
structure ArrayElement where
  kind : ScalarKind
  nullable : Bool := false
  deriving DecidableEq, Repr

def ArrayElement.display (e : ArrayElement) : String :=
  if e.nullable then "Option<" ++ e.kind.name ++ ">" else e.kind.name

end ProcCall
