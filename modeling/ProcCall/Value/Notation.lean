import ProcCall.Value.Basic

/-! # Values as JSON

A value is written as an object with one field that names its type. Floats are written
as their bits in hexadecimal, so that no bit is lost.
-/

namespace ProcCall

open Binary

namespace Scalar

def typeTag : Scalar → String
  | bool _ => "Bool"
  | int .w8 _ => "Int8"
  | int .w16 _ => "Int16"
  | int .w32 _ => "Int32"
  | int .w64 _ => "Int64"
  | float32 _ => "Float32"
  | float64 _ => "Float64"
  | decimal _ => "Decimal"
  | text _ => "String"
  | bytes _ => "Bytes"
  | uuid _ => "Uuid"
  | date _ => "Date"
  | time _ => "Time"
  | dateTime _ => "DateTime"
  | dateTimeUtc _ => "DateTimeUtc"
  | json _ => "Json"

/-- All NaNs are one. -/
def writeBits (f : Format) (width bits : Nat) : String :=
  if f.isNaN bits then "NaN" else String.ofList (Text.paddedHex width bits)

def float64Bits (bits : UInt64) : String := writeBits double 16 bits.toNat

def content : Scalar → Json
  | bool b => .bool b
  | int _ n => .int n.val
  | float32 b => .str (writeBits single 8 b.toNat)
  | float64 b => .str (float64Bits b)
  | decimal s | text s => .str s
  | bytes bs => .arr (bs.map fun b => .int b.toNat)
  | uuid u => .str (String.ofList u.chars)
  | date d => .str (String.ofList d.chars)
  | time t => .str (String.ofList t.chars)
  | dateTime t => .str (String.ofList (t.chars 'T'))
  | dateTimeUtc t => .str (String.ofList (t.chars 'T') ++ "Z")
  | json j => j

def readBits? (f : Format) (width : Nat) : Json → Option Nat
  | .str s =>
    if s = "NaN" then some f.nan
    else if s = "" ∨ s.length > width then none
    else Uuid.readHex 0 s.toList
  | _ => none

def byte? : Json → Option UInt8
  | .int n => if 0 ≤ n ∧ n < 256 then some (UInt8.ofNat n.toNat) else none
  | _ => none

def int? (w : IntWidth) : Json → Option Scalar
  | .int n => (Integer.ofInt? w n).map (int w)
  | _ => none

def string? : Json → Option String
  | .str s => some s
  | _ => none

/-- The scalar with the given type and content. -/
def ofContent? (tag : String) (j : Json) : Option Scalar :=
  match tag with
  | "Bool" => match j with
    | .bool b => some (bool b)
    | _ => none
  | "Int8" => int? .w8 j
  | "Int16" => int? .w16 j
  | "Int32" => int? .w32 j
  | "Int64" => int? .w64 j
  | "Float32" => (readBits? single 8 j).map fun b => float32 (UInt32.ofNat b)
  | "Float64" => (readBits? double 16 j).map fun b => float64 (UInt64.ofNat b)
  | "Decimal" => (string? j).map decimal
  | "String" => (string? j).map text
  | "Bytes" => match j with
    | .arr items => (items.mapM byte?).map bytes
    | _ => none
  | "Uuid" => (string? j).bind fun s => (Uuid.read? s.toList).map uuid
  | "Date" => (string? j).bind fun s => (Calendar.readDate? s.toList).map date
  | "Time" => (string? j).bind fun s => (Calendar.readTime? s.toList).map time
  | "DateTime" => (string? j).bind fun s => (Calendar.readTimestamp? s.toList).map dateTime
  | "DateTimeUtc" => (string? j).bind fun s => (Calendar.readInstant? s.toList).map dateTimeUtc
  | "Json" => some (json j)
  | _ => none

end Scalar

namespace Value

mutual

def toJson : Value → Json
  | .null => .str "Null"
  | .scalar s => .obj [(s.typeTag, s.content)]
  | .array items => .obj [("Array", .arr (toItems items))]

def toItems : List Value → List Json
  | [] => []
  | v :: vs => v.toJson :: toItems vs

end

mutual

def ofJson? : Json → Option Value
  | .str s => if s = "Null" then some .null else none
  | .obj [(tag, content)] =>
    if tag = "Array" then ofArray? content
    else if tag = "Null" then (if content = .null then some .null else none)
    else (Scalar.ofContent? tag content).map .scalar
  | _ => none

def ofArray? : Json → Option Value
  | .arr items => (ofItems? items).map .array
  | _ => none

def ofItems? : List Json → Option (List Value)
  | [] => some []
  | j :: js => do some ((← ofJson? j) :: (← ofItems? js))

end

end Value

end ProcCall
