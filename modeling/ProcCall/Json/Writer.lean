import ProcCall.Json.Basic
import ProcCall.Number.Shortest
import ProcCall.Text.Quoted

/-! # Writing JSON

The compact form: no blanks, control characters escaped, all else as it is.
-/

namespace ProcCall.Json

def escapeChar (c : Char) : List Char :=
  if c = '"' then ['\\', '"']
  else if c = '\\' then ['\\', '\\']
  else if c = '\n' then ['\\', 'n']
  else if c = '\r' then ['\\', 'r']
  else if c = '\t' then ['\\', 't']
  else if c.toNat = 8 then ['\\', 'b']
  else if c.toNat = 12 then ['\\', 'f']
  else if c.toNat < 32 then '\\' :: 'u' :: Text.paddedHex 4 c.toNat
  else [c]

def writeString (s : String) : List Char := '"' :: s.toList.flatMap escapeChar ++ ['"']

/-- Positional between `10^(-5)` and `10^16` with a point in every number, and a plain
exponent outside. -/
def layoutFloat (d : Shortest.Decimal) : List Char :=
  let ds := Numeral.writeNat d.digits
  let point := (ds.length : Int) + d.exp
  if d.digits = 0 then ['0', '.', '0']
  else if -5 < point ∧ point ≤ 16 then
    d.positional ++ (if 0 ≤ d.exp then ['.', '0'] else [])
  else
    let tail := ds.drop 1
    ds.take 1 ++ (if tail.isEmpty then [] else '.' :: tail) ++
      'e' :: Numeral.writeInt (point - 1)

/-- JSON has no word for what is not a finite number. -/
def writeFloat (bits : Nat) : List Char :=
  match Binary.double.magnitude bits with
  | .finite m q =>
    (if Binary.double.isNegative bits then ['-'] else []) ++
      layoutFloat (Shortest.ofScaled .toEven Binary.double m q)
  | _ => "null".toList

mutual

def write : Json → List Char
  | .null => "null".toList
  | .bool true => "true".toList
  | .bool false => "false".toList
  | .int n => Numeral.writeInt n
  | .float bits => writeFloat bits.toNat
  | .str s => writeString s
  | .arr items => '[' :: writeItems items ++ [']']
  | .obj fields => '\x7b' :: writeFields fields ++ ['\x7d']

def writeItems : List Json → List Char
  | [] => []
  | [x] => write x
  | x :: y :: rest => write x ++ ',' :: writeItems (y :: rest)

def writeFields : List (String × Json) → List Char
  | [] => []
  | [(k, v)] => writeString k ++ ':' :: write v
  | (k, v) :: f :: rest => writeString k ++ ':' :: write v ++ ',' :: writeFields (f :: rest)

end

def text (j : Json) : String := String.ofList j.write

end ProcCall.Json
