import ProcCall.Json.Basic
import ProcCall.Number.Integer
import ProcCall.Number.Binary
import ProcCall.Value.Uuid

/-! # Reading JSON

The grammar of the standard, with nesting limited. A number that is not whole keeps
the leading digits that fit 64 bits and is scaled by a power of ten, one rounding a step.
-/

namespace ProcCall.Json

open Binary

/-- Documents nest less deeply than this. -/
def depthLimit : Nat := 128

def skipBlanks (s : List Char) : List Char :=
  s.dropWhile fun c => c = ' ' || c = '\n' || c = '\r' || c = '\t'

/-! ## Strings -/

def hexUnit? (s : List Char) : Option (Nat × List Char) :=
  match s with
  | a :: b :: c :: d :: rest => (Uuid.readHex 0 [a, b, c, d]).map fun n => (n, rest)
  | _ => none

def unescape? : Char → Option Char
  | '"' => some '"'
  | '\\' => some '\\'
  | '/' => some '/'
  | 'b' => some (Char.ofNat 8)
  | 'f' => some (Char.ofNat 12)
  | 'n' => some '\n'
  | 'r' => some '\r'
  | 't' => some '\t'
  | _ => none

/-- A code point in one escape or, beyond the first plane, in two. -/
def readUnicode? (s : List Char) : Option (Char × List Char) := do
  let (n, rest) ← hexUnit? s
  if n < 0xD800 ∨ 0xDFFF < n then some (Char.ofNat n, rest)
  else if n < 0xDC00 then
    match rest with
    | '\\' :: 'u' :: rest =>
      let (m, rest) ← hexUnit? rest
      if 0xDC00 ≤ m ∧ m ≤ 0xDFFF then
        some (Char.ofNat (0x10000 + (n - 0xD800) * 0x400 + (m - 0xDC00)), rest)
      else none
    | _ => none
  else none

/-- The characters up to the closing quote; `fuel` bounds their number. -/
def readChars : (fuel : Nat) → List Char → Option (List Char × List Char)
  | 0, _ => none
  | fuel + 1, s =>
    match s with
    | [] => none
    | '"' :: rest => some ([], rest)
    | '\\' :: 'u' :: rest => do
      let (c, rest) ← readUnicode? rest
      let (cs, rest) ← readChars fuel rest
      some (c :: cs, rest)
    | '\\' :: e :: rest => do
      let c ← unescape? e
      let (cs, rest) ← readChars fuel rest
      some (c :: cs, rest)
    | c :: rest =>
      if c.toNat < 32 then none
      else (readChars fuel rest).map fun (cs, rest) => (c :: cs, rest)

def readString (s : List Char) : Option (String × List Char) :=
  (readChars (s.length + 1) s).map fun (cs, rest) => (String.ofList cs, rest)

/-! ## Numbers -/

/-- The leading digits that fit 64 bits, and how many were left over. -/
def leading (n : Nat) : List Char → Nat × Nat
  | [] => (n, 0)
  | c :: cs =>
    let m := 10 * n + (c.toNat - 48)
    if m < 1 <<< 64 then leading m cs else (n, cs.length + 1)

/-- The quotient of two finite magnitudes. -/
def divide (a b : Nat) : Nat :=
  match double.magnitude a, double.magnitude b with
  | .finite m q, .finite n p =>
    double.nearest (m <<< (q - p).toNat) (n <<< (p - q).toNat)
  | _, _ => double.nan

def multiply (a b : Nat) : Nat :=
  match double.magnitude a, double.magnitude b with
  | .finite m q, .finite n p => double.ofScaled (m * n) (q + p)
  | _, _ => double.nan

def powerOfTen (k : Nat) : Nat := double.nearest (Nat.pow 10 k) 1

/-- The bits of `n * 10^exp`; too large a number is refused. -/
def scale (n : Nat) (exp : Int) : Option Nat :=
  let f := double.nearest n 1
  if n = 0 then some 0
  else if 0 ≤ exp then
    if exp ≤ 308 then
      let p := multiply f (powerOfTen exp.toNat)
      if p < double.infinity then some p else none
    else none
  else
    let k := (-exp).toNat
    if k ≤ 308 then some (divide f (powerOfTen k))
    else if k ≤ 616 then some (divide (divide f (powerOfTen 308)) (powerOfTen (k - 308)))
    else some 0

def spanDigits (s : List Char) : List Char × List Char :=
  (s.takeWhile Char.isDigit, s.dropWhile Char.isDigit)

/-- The fraction, present when a point is; it then has a digit. -/
def readFraction? : List Char → Option (List Char × List Char)
  | '.' :: rest =>
    let (ds, rest) := spanDigits rest
    if ds.isEmpty then none else some (ds, rest)
  | s => some ([], s)

/-- The exponent when there is one, with the text after it. -/
def readExponent? : List Char → Option (Option Int × List Char)
  | [] => some (none, [])
  | c :: rest =>
    if c = 'e' ∨ c = 'E' then
      let (negative, rest) := match rest with
        | '-' :: r => (true, r)
        | '+' :: r => (false, r)
        | r => (false, r)
      let (ds, rest) := spanDigits rest
      (Numeral.readNat ds).map fun n => (some (if negative then -(n : Int) else n), rest)
    else some (none, c :: rest)

/-- A whole number that 64 bits hold stays whole; minus zero does not. -/
def number? (negative : Bool) (whole frac : List Char) (exp : Option Int) : Option Json :=
  let exact : Int := if negative then -((leading 0 whole).1 : Int) else (leading 0 whole).1
  if frac.isEmpty ∧ exp = none ∧ (leading 0 whole).2 = 0 ∧ isWhole exact ∧
      ¬ (negative ∧ exact = 0) then
    some (.int exact)
  else
    let (n, rest) := leading 0 (whole ++ frac)
    let point : Int := (rest : Int) - frac.length
    (scale n (point + exp.getD 0)).map fun bits =>
      .float (UInt64.ofNat (double.withSign negative bits))

def readNumber (s : List Char) : Option (Json × List Char) := do
  let (negative, s) := match s with
    | '-' :: r => (true, r)
    | r => (false, r)
  let (whole, s) := spanDigits s
  if whole.isEmpty ∨ (whole.head? = some '0' ∧ whole.length ≠ 1) then none
  else
    let (frac, s) ← readFraction? s
    let (exp, s) ← readExponent? s
    let j ← number? negative whole frac exp
    some (j, s)

/-! ## Values -/

/-- The items after an opening bracket, one at least, up to the closing one. -/
def readItems (value : List Char → Option (Json × List Char)) :
    (fuel : Nat) → List Char → Option (List Json × List Char)
  | 0, _ => none
  | fuel + 1, s => do
    let (x, rest) ← value (skipBlanks s)
    match skipBlanks rest with
    | ',' :: rest => (readItems value fuel rest).map fun (xs, rest) => (x :: xs, rest)
    | ']' :: rest => some ([x], rest)
    | _ => none

/-- One field: a name, a colon and a value. -/
def readField (value : List Char → Option (Json × List Char)) (s : List Char) :
    Option ((String × Json) × List Char) :=
  match skipBlanks s with
  | '"' :: rest => do
    let (name, rest) ← readString rest
    match skipBlanks rest with
    | ':' :: rest => (value (skipBlanks rest)).map fun (v, rest) => ((name, v), rest)
    | _ => none
  | _ => none

def readFields (value : List Char → Option (Json × List Char)) :
    (fuel : Nat) → List Char → Option (List (String × Json) × List Char)
  | 0, _ => none
  | fuel + 1, s => do
    let (f, rest) ← readField value s
    match skipBlanks rest with
    | ',' :: rest => (readFields value fuel rest).map fun (fs, rest) => (f :: fs, rest)
    | '\x7d' :: rest => some ([f], rest)
    | _ => none

def readWord (s : List Char) : Option (Json × List Char) :=
  if s.take 4 = "null".toList then some (.null, s.drop 4)
  else if s.take 4 = "true".toList then some (.bool true, s.drop 4)
  else if s.take 5 = "false".toList then some (.bool false, s.drop 5)
  else none

/-- A value that nests less than `depth` deep, with the text after it. -/
def readValue : (depth : Nat) → List Char → Option (Json × List Char)
  | 0, _ => none
  | depth + 1, s =>
    match s with
    | '[' :: rest =>
      match skipBlanks rest with
      | ']' :: rest => if depth = 0 then none else some (.arr [], rest)
      | rest => (readItems (readValue depth) (rest.length + 1) rest).map
          fun (xs, rest) => (.arr xs, rest)
    | '\x7b' :: rest =>
      match skipBlanks rest with
      | '\x7d' :: rest => if depth = 0 then none else some (.obj [], rest)
      | rest => (readFields (readValue depth) (rest.length + 1) rest).map
          fun (fs, rest) => (object fs, rest)
    | '"' :: rest => (readString rest).map fun (t, rest) => (.str t, rest)
    | c :: _ => if c = '-' || c.isDigit then readNumber s else readWord s
    | [] => none

/-- The document that the whole text is. -/
def read? (s : String) : Option Json := do
  let (j, rest) ← readValue depthLimit (skipBlanks s.toList)
  if (skipBlanks rest).isEmpty then some j else none

end ProcCall.Json
