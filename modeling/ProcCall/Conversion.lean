import ProcCall.Error.Call
import ProcCall.Value.Notation

/-! # Converting results

A result is asked for as a type of the host program: a scalar, something that may be
absent, or a list.
-/

namespace ProcCall

/-- The scalar types of the host program. -/
inductive HostType where
  | bool
  | int (w : IntWidth)
  | float32 | float64
  | text | uuid
  | date | time | dateTime | dateTimeUtc
  deriving DecidableEq, Repr

namespace HostType

def kind : HostType → ScalarKind
  | bool => .bool
  | int w => .int w
  | float32 => .float32
  | float64 => .float64
  | text => .text
  | uuid => .uuid
  | date => .date
  | time => .time
  | dateTime => .dateTime
  | dateTimeUtc => .dateTimeUtc

def all : List HostType :=
  [bool, int .w8, int .w16, int .w32, int .w64, float32, float64, text, uuid, date, time, dateTime,
    dateTimeUtc]

def name : HostType → String
  | bool => "bool"
  | int w => (ScalarKind.int w).name
  | float32 => "f32"
  | float64 => "f64"
  | text => "String"
  | uuid => "Uuid"
  | date => "NaiveDate"
  | time => "NaiveTime"
  | dateTime => "NaiveDateTime"
  | dateTimeUtc => "DateTime<Utc>"

end HostType

/-- What a result is asked for as. -/
inductive Target where
  | value
  | unit
  | scalar (t : HostType)
  | option (t : Target)
  | list (t : Target)
  deriving DecidableEq, Repr

inductive Converted where
  | value (v : Value)
  | unit
  | scalar (s : Scalar)
  | absent
  | present (c : Converted)
  | list (items : List Converted)
  deriving Repr

namespace Target

/-- Converts the items in order, up to the first that fails. -/
def convertItems {α : Type} (item : Value → Except Fault α) :
    List Value → Except Fault (List α)
  | [] => .ok []
  | v :: vs => do
    let c ← item v
    let cs ← convertItems item vs
    .ok (c :: cs)

def convert : Target → Value → Except Fault Converted
  | value, v => .ok (.value v)
  | unit, _ => .ok .unit
  | scalar t, v =>
    match v.coerce t.kind with
    | some (.scalar s) => .ok (.scalar s)
    | _ => .error (.typeMismatch t.name v.typeName)
  | option _, .null => .ok .absent
  | option t, v => (t.convert v).map .present
  | list t, .array items => (convertItems t.convert items).map .list
  | list _, v => .error (.typeMismatch "array" v.typeName)

/-- A target in words: wrappers, then a base. -/
def ofWords? : List String → Option Target
  | ["Value"] => some value
  | ["unit"] => some unit
  | ["DateTime"] => some (scalar .dateTimeUtc)
  | [s] => (HostType.all.find? fun t => t.name == s).map scalar
  | "Option" :: rest => (ofWords? rest).map option
  | "Vec" :: rest => (ofWords? rest).map list
  | _ => none

end Target

namespace Converted

mutual

def toJson : Converted → Json
  | value v => v.toJson
  | unit => .str "()"
  | scalar s => (Value.scalar s).toJson
  | absent => .str "None"
  | present c => .obj [("Some", c.toJson)]
  | list items => .arr (toItems items)

def toItems : List Converted → List Json
  | [] => []
  | c :: cs => c.toJson :: toItems cs

end

end Converted

end ProcCall
