import ProcCall.Unicode.Ranges
import ProcCall.Unicode.CaseTable

/-! # Upper and lower case

Full case mapping: one character may become several, and a capital sigma that ends a
word gets its final form.
-/

namespace ProcCall.Unicode

def isAscii (c : Char) : Bool := c.toNat < 128

/-- The run that moves the code point, applied to it. -/
def CaseRun.image? (n : Nat) (r : CaseRun) : Option Nat :=
  if r.first ≤ n ∧ n ≤ r.last ∧ (n - r.first) % r.step = 0 then some (n + r.shift).toNat else none

def shift (runs : List CaseRun) (c : Char) : Char :=
  match runs.findSome? (CaseRun.image? c.toNat) with
  | some n => Char.ofNat n
  | none => c

def lowerChar (c : Char) : List Char :=
  if isAscii c then [c.toLower]
  else if c = 'İ' then ['i', '\u0307']
  else [shift lowerRuns c]

def upperChar (c : Char) : List Char :=
  if isAscii c then [c.toUpper]
  else match upperExpansions.lookup c.toNat with
    | some ns => ns.map Char.ofNat
    | none => [shift upperRuns c]

def isCased (c : Char) : Bool :=
  if isAscii c then c.isAlpha else inRanges casedRanges c

def isCaseIgnorable (c : Char) : Bool := inRanges caseIgnorableRanges c

/-- Whether the first character that counts for casing is a cased one. -/
def startsCased (s : List Char) : Bool :=
  ((s.dropWhile isCaseIgnorable).head?.map isCased).getD false

/-- Lower case of a text; `after` says whether a cased character stands before it. -/
def lowerAfter (after : Bool) : List Char → List Char
  | [] => []
  | c :: cs =>
    (if c = 'Σ' then [if after && !startsCased cs then 'ς' else 'σ'] else lowerChar c) ++
      lowerAfter (if isCaseIgnorable c then after else isCased c) cs

def lower (s : List Char) : List Char := lowerAfter false s

def upper (s : List Char) : List Char := s.flatMap upperChar

end ProcCall.Unicode
