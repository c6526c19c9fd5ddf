import ProcCall.Value.Kind
import ProcCall.Value.Calendar
import ProcCall.Value.Uuid
import ProcCall.Json.Writer
import ProcCall.Number.Decimal

/-! # Values

A value is NULL, a scalar of one kind, or an array of values.
-/

namespace ProcCall

open Binary

inductive Scalar where
  | bool (b : Bool)
  | int (w : IntWidth) (n : Integer w)
  | float32 (bits : UInt32)
  | float64 (bits : UInt64)
  /-- Kept as text, so no digit is lost. -/
  | decimal (digits : String)
  | text (s : String)
  | bytes (bs : List UInt8)
  | uuid (u : Uuid)
  | date (d : Date)
  | time (t : TimeOfDay)
  | dateTime (t : Timestamp)
  /-- A timestamp at Greenwich. -/
  | dateTimeUtc (t : Timestamp)
  | json (j : Json)
  deriving DecidableEq, Repr

inductive Value where
  | null
  | scalar (s : Scalar)
  | array (items : List Value)
  deriving Repr

namespace Value

mutual

def decEq : (a b : Value) → Decidable (a = b)
  | .null, .null => isTrue rfl
  | .null, .scalar _ | .null, .array _ | .scalar _, .null | .scalar _, .array _
  | .array _, .null | .array _, .scalar _ => isFalse (by simp)
  | .scalar s, .scalar t => decidable_of_iff (s = t) (by simp)
  | .array xs, .array ys =>
    have := decEqItems xs ys
    decidable_of_iff (xs = ys) (by simp)

def decEqItems : (xs ys : List Value) → Decidable (xs = ys)
  | [], [] => isTrue rfl
  | [], _ :: _ => isFalse (by simp)
  | _ :: _, [] => isFalse (by simp)
  | x :: xs, y :: ys =>
    have := decEq x y
    have := decEqItems xs ys
    decidable_of_iff (x = y ∧ xs = ys) (by simp)

end

instance : DecidableEq Value := decEq

instance : Inhabited Value := ⟨null⟩

def isNull : Value → Bool
  | null => true
  | _ => false

@[simp] theorem isNull_iff {v : Value} : v.isNull = true ↔ v = null := by
  cases v <;> simp [isNull]

abbrev ofText (s : String) : Value := scalar (.text s)

end Value

namespace Scalar

def kind : Scalar → ScalarKind
  | bool _ => .bool
  | int w _ => .int w
  | float32 _ => .float32
  | float64 _ => .float64
  | decimal _ => .decimal
  | text _ => .text
  | bytes _ => .bytes
  | uuid _ => .uuid
  | date _ => .date
  | time _ => .time
  | dateTime _ => .dateTime
  | dateTimeUtc _ => .dateTimeUtc
  | json _ => .json

/-! ## Views -/

def asText? : Scalar → Option String
  | text s => some s
  | _ => none

def asBool? : Scalar → Option Bool
  | bool b => some b
  | _ => none

/-- A text that is a whole number of 64 bits. -/
def readInteger? (s : String) : Option (Integer .w64) :=
  (Numeral.readInt s.toList).bind (Integer.ofInt? .w64)

def asInteger? : Scalar → Option (Integer .w64)
  | int _ n => some ⟨n.val, n.property.widen⟩
  | text s | decimal s => readInteger? s
  | _ => none

def readFloat64? (s : String) : Option UInt64 :=
  (DecimalText.read? double s.toList).map UInt64.ofNat

def widenFloat (bits : UInt32) : UInt64 := UInt64.ofNat (double.convert single bits.toNat)

def floatOfInt (n : Int) : UInt64 := UInt64.ofNat (double.ofInt n)

/-- The bits of the nearest binary64 value. -/
def asFloat64? : Scalar → Option UInt64
  | float32 b => some (widenFloat b)
  | float64 b => some b
  | int _ n => some (floatOfInt n.val)
  | text s | decimal s => readFloat64? s
  | _ => none

def intText (n : Int) : String := String.ofList (Numeral.writeInt n)

def float32Text (bits : UInt32) : String := String.ofList (single.plainText bits.toNat)

def float64Text (bits : UInt64) : String := String.ofList (double.plainText bits.toNat)

def display : Scalar → String
  | bool b => if b then "true" else "false"
  | int _ n => intText n.val
  | float32 b => float32Text b
  | float64 b => float64Text b
  | decimal s | text s => s
  | bytes bs => "<" ++ toString bs.length ++ " bytes>"
  | uuid u => String.ofList u.chars
  | date d => String.ofList d.chars
  | time t => String.ofList t.chars
  | dateTime t => String.ofList (t.chars ' ')
  | dateTimeUtc t => String.ofList (t.chars ' ') ++ " UTC"
  | json j => j.text

/-! ## Conversion -/

/-- The same content as another kind, where a lossless or customary way exists. -/
def convert : Scalar → ScalarKind → Option Scalar
  | int _ n, .int w => (Integer.ofInt? w n.val).map (int w)
  | int _ n, .decimal => some (decimal (intText n.val))
  | int _ n, .float64 => some (float64 (floatOfInt n.val))
  | float32 b, .float64 => some (float64 (widenFloat b))
  | float32 b, .decimal => some (decimal (float32Text b))
  | float64 b, .decimal => some (decimal (float64Text b))
  | decimal s, .float64 => (readFloat64? s).map float64
  | decimal s, .int w => (readInteger? s).bind fun n => (Integer.ofInt? w n.val).map (int w)
  | text s, .clob => some (text s)
  | bytes bs, .blob => some (bytes bs)
  | dateTime t, .date => some (date t.date)
  | dateTime t, .dateTimeUtc => some (dateTimeUtc t)
  | dateTimeUtc t, .dateTime => some (dateTime t)
  | date d, .dateTime => some (dateTime ⟨d, .midnight⟩)
  | _, _ => none

/-- A scalar already of the kind stays as it is. -/
def coerce (s : Scalar) (k : ScalarKind) : Option Scalar :=
  if s.kind = k then some s else s.convert k

end Scalar

namespace Value

def kind? : Value → Option ScalarKind
  | scalar s => some s.kind
  | _ => none

def typeName : Value → String
  | null => "null"
  | scalar s => s.kind.name
  | array _ => "array"

def asText? : Value → Option String
  | scalar s => s.asText?
  | _ => none

def asBool? : Value → Option Bool
  | scalar s => s.asBool?
  | _ => none

def asInteger? : Value → Option (Integer .w64)
  | scalar s => s.asInteger?
  | _ => none

def asFloat64? : Value → Option UInt64
  | scalar s => s.asFloat64?
  | _ => none

def display : Value → String
  | null => "NULL"
  | scalar s => s.display
  | array items => "[" ++ toString items.length ++ " items]"

/-- NULL is NULL of every kind, and no array is of any. -/
def coerce : Value → ScalarKind → Option Value
  | null, _ => some null
  | scalar s, k => (s.coerce k).map scalar
  | array _, _ => none

end Value

end ProcCall
