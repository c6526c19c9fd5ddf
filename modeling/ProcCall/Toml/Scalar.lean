import ProcCall.Json.Basic
import ProcCall.Number.Decimal
import ProcCall.Toml.Text
import ProcCall.Value.Calendar

/-! # Numbers and times of TOML

Whole numbers have 64 bits. A time stands in a document as an object with one field, as
nothing else does.
-/

namespace ProcCall.Toml

/-! ## Digits -/

/-- The digits that follow a first one; an underscore may stand between two. -/
def moreDigits (isDigit : Char → Bool) : List Char → List Char × List Char
  | '_' :: c :: rest =>
    if isDigit c then
      let (ds, rest) := moreDigits isDigit rest
      (c :: ds, rest)
    else ([], '_' :: c :: rest)
  | c :: rest =>
    if isDigit c then
      let (ds, rest) := moreDigits isDigit rest
      (c :: ds, rest)
    else ([], c :: rest)
  | [] => ([], [])

def digits? (isDigit : Char → Bool) : List Char → Option (List Char × List Char)
  | c :: rest =>
    if isDigit c then
      let (ds, rest) := moreDigits isDigit rest
      some (c :: ds, rest)
    else none
  | [] => none

def sign : List Char → List Char × List Char
  | '-' :: rest => (['-'], rest)
  | '+' :: rest => ([], rest)
  | s => ([], s)

/-- A sign and digits, the first of which is zero only if it is alone. -/
def wholeText? (s : List Char) : Option (List Char × List Char) :=
  match sign s with
  | (lead, '0' :: rest) => some (lead ++ ['0'], rest)
  | (lead, rest) => (digits? Char.isDigit rest).map fun (ds, rest) => (lead ++ ds, rest)

/-! ## Numbers -/

def whole? (n : Int) (rest : List Char) : Option (Json × List Char) :=
  (Integer.ofInt? .w64 n).map fun n => (.int n.val, rest)

/-- The value of digits in a base that is a power of two. -/
def inBase (base : Nat) (ds : List Char) : Option Int := do
  let values ← ds.mapM fun c => Uuid.readHex 0 [c]
  some (values.foldl (fun n d => base * n + d) 0 : Nat)

def readInBase (base : Nat) (isDigit : Char → Bool) (s : List Char) :
    Option (Json × List Char) := do
  let (ds, rest) ← digits? isDigit s
  whole? (← inBase base ds) rest

def isHexDigit (c : Char) : Bool := c.isDigit || ('a' ≤ c && c ≤ 'f') || ('A' ≤ c && c ≤ 'F')

def readWhole : List Char → Option (Json × List Char)
  | '0' :: 'x' :: rest => readInBase 16 isHexDigit rest
  | '0' :: 'o' :: rest => readInBase 8 (fun c => '0' ≤ c && c ≤ '7') rest
  | '0' :: 'b' :: rest => readInBase 2 (fun c => c = '0' || c = '1') rest
  | s => do
    let (text, rest) ← wholeText? s
    whole? (← Numeral.readInt text) rest

def fraction? : List Char → Option (List Char × List Char)
  | '.' :: rest => (digits? Char.isDigit rest).map fun (ds, rest) => ('.' :: ds, rest)
  | _ => none

def exponent? : List Char → Option (List Char × List Char)
  | c :: rest =>
    if c = 'e' || c = 'E' then
      let (lead, rest) := sign rest
      (digits? Char.isDigit rest).map fun (ds, rest) => ('e' :: lead ++ ds, rest)
    else none
  | [] => none

def word? : List Char → Option (List Char × List Char)
  | 'i' :: 'n' :: 'f' :: rest => some (['i', 'n', 'f'], rest)
  | 'n' :: 'a' :: 'n' :: rest => some (['n', 'a', 'n'], rest)
  | _ => none

/-- The text of a number with a fraction, an exponent or both. -/
def floatText? (s : List Char) : Option (List Char × List Char) := do
  let (lead, rest) ← wholeText? s
  match fraction? rest with
  | some (frac, rest) =>
    match exponent? rest with
    | some (exp, rest) => some (lead ++ frac ++ exp, rest)
    | none => some (lead ++ frac, rest)
  | none => (exponent? rest).map fun (exp, rest) => (lead ++ exp, rest)

/-- A number too large is refused; infinity has a word. -/
def readFloat (s : List Char) : Option (Json × List Char) :=
  match floatText? s with
  | some (text, rest) => do
    let bits ← DecimalText.read? Binary.double text
    if bits = Binary.double.infinity then none else some (.float (UInt64.ofNat bits), rest)
  | none => do
    let (lead, rest) := sign s
    let (text, rest) ← word? rest
    let bits ← DecimalText.read? Binary.double (lead ++ text)
    some (.float (UInt64.ofNat bits), rest)

/-! ## Times -/

def mark? (c : Char) : List Char → Option (List Char)
  | d :: rest => if c = d then some rest else none
  | [] => none

def afterDate? (s : List Char) : Option (List Char) := do
  let (high, s) ← Calendar.digitPair? s
  let (low, s) ← Calendar.digitPair? s
  let (month, s) ← Calendar.digitPair? (← mark? '-' s)
  let (day, s) ← Calendar.digitPair? (← mark? '-' s)
  let date : Date := ⟨100 * high + low, month, day⟩
  if date.isValid then some s else none

def afterHourMinute? (s : List Char) : Option (List Char) := do
  let (hour, s) ← Calendar.digitPair? s
  let (minute, s) ← Calendar.digitPair? (← mark? ':' s)
  if hour < 24 ∧ minute < 60 then some s else none

def afterTime? (s : List Char) : Option (List Char) := do
  let s ← afterHourMinute? s
  let (second, s) ← Calendar.digitPair? (← mark? ':' s)
  if second ≤ 60 then
    match s with
    | '.' :: c :: rest => if c.isDigit then some (rest.dropWhile Char.isDigit) else some s
    | s => some s
  else none

def afterOffset? : List Char → Option (List Char)
  | c :: rest =>
    if c = 'Z' || c = 'z' then some rest
    else if c = '+' || c = '-' then afterHourMinute? rest
    else none
  | [] => none

/-- The time of day after a date, with its offset. -/
def afterDayTime? : List Char → Option (List Char)
  | c :: rest =>
    if c = 'T' || c = 't' || c = ' ' then
      match afterTime? rest with
      | some rest => some ((afterOffset? rest).getD rest)
      | none => none
    else none
  | [] => none

/-- The text after a date, a time or both. -/
def afterDateTime? (s : List Char) : Option (List Char) :=
  match afterDate? s with
  | some rest => some ((afterDayTime? rest).getD rest)
  | none => afterTime? s

def timeField : String := "$datetime"

def readTime (s : List Char) : Option (Json × List Char) :=
  (afterDateTime? s).map fun rest =>
    (.obj [(timeField, .str (String.ofList (s.take (s.length - rest.length))))], rest)

/-! ## Values without parts -/

def readTruth : List Char → Option (Json × List Char)
  | 't' :: 'r' :: 'u' :: 'e' :: rest => some (.bool true, rest)
  | 'f' :: 'a' :: 'l' :: 's' :: 'e' :: rest => some (.bool false, rest)
  | _ => none

def readScalar (s : List Char) : Option (Json × List Char) :=
  (readString s).map (fun (cs, rest) => (Json.str (String.ofList cs), rest)) <|>
    readTruth s <|> readTime s <|> readFloat s <|> readWhole s

end ProcCall.Toml
