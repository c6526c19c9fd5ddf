import ProcCall.Number.Integer
import ProcCall.Number.Binary

/-! # Reading decimals

A decimal is a sign, digits around an optional point, and an optional exponent; the
words for infinity and not-a-number are read in any case. The result is the nearest
value of the format.
-/

namespace ProcCall.DecimalText

/-- A text split into its longest run of digits and the rest. -/
def spanDigits (s : List Char) : List Char × List Char :=
  (s.takeWhile Char.isDigit, s.dropWhile Char.isDigit)

def digitsValue (ds : List Char) : Nat := (Numeral.readOn 0 ds).getD 0

/-- Beyond these exponents the outcome is zero or infinity whatever the digits are. -/
def nearestScaled (f : Binary.Format) (digits : List Char) (exp : Int) : Nat :=
  let n := digitsValue digits
  let top := ((digits.dropWhile (· = '0')).length : Int) + exp
  if n = 0 then 0
  else if top > 400 then f.infinity
  else if top < -400 then 0
  else f.nearest (n * Nat.pow 10 exp.toNat) (Nat.pow 10 (-exp).toNat)

/-- The exponent after the digits: absent, or a mark, a sign and digits. -/
def readExponent : List Char → Option Int
  | [] => some 0
  | c :: cs => if c = 'e' ∨ c = 'E' then Numeral.readInt cs else none

/-- The unsigned number, or nothing when the text is not one. -/
def readMagnitude (f : Binary.Format) (s : List Char) : Option Nat :=
  let (whole, rest) := spanDigits s
  let (frac, rest) := match rest with
    | '.' :: cs => spanDigits cs
    | _ => ([], rest)
  if whole.isEmpty && frac.isEmpty then none
  else (readExponent rest).map fun e => nearestScaled f (whole ++ frac) (e - frac.length)

def readWord (f : Binary.Format) (s : List Char) : Option Nat :=
  let word := String.ofList (s.map Char.toLower)
  if word = "nan" then some f.nan
  else if word = "inf" ∨ word = "infinity" then some f.infinity
  else none

def readUnsigned (f : Binary.Format) (s : List Char) : Option Nat :=
  (readWord f s).orElse fun _ => readMagnitude f s

/-- The bits of the value that the text denotes. -/
def read? (f : Binary.Format) : List Char → Option Nat
  | '-' :: cs => (readUnsigned f cs).map (f.withSign true)
  | '+' :: cs => readUnsigned f cs
  | cs => readUnsigned f cs

end ProcCall.DecimalText
