import ProcCall.Number.Integer
import ProcCall.Number.Binary

/-! # Shortest decimals

The fewest digits that read back to a binary value. The reals that round to the
value form an interval; the first decimal grid with a point in it wins, and of two
points the nearer one.
-/

namespace ProcCall.Shortest

/-- `digits * 10^exp` -/
structure Decimal where
  digits : Nat
  exp : Int
  deriving DecidableEq, Repr

/-- Which of two equally near candidates is taken. -/
inductive Tie where
  | up | toEven
  deriving DecidableEq, Repr

/-- How `a * 10^i` compares with `num / den`. -/
def compareScaled (a : Nat) (i : Int) (num den : Nat) : Ordering :=
  compare (a * Nat.pow 10 i.toNat * den) (num * Nat.pow 10 (-i).toNat)

/-- A positive value with the ends of its rounding interval, over one denominator. -/
structure Interval where
  low : Nat
  value : Nat
  high : Nat
  den : Nat
  /-- The ends themselves round to the value. -/
  closed : Bool
  deriving DecidableEq, Repr

/-- The gap below a power of two is half the gap above it. -/
def Interval.ofScaled (f : Binary.Format) (m : Nat) (q : Int) : Interval :=
  let narrow := m = 1 <<< f.fraction ∧ f.qMin < q
  { low := (if narrow then 4 * m - 1 else 4 * m - 2) <<< q.toNat
    value := (4 * m) <<< q.toNat
    high := (4 * m + 2) <<< q.toNat
    den := 4 <<< (-q).toNat
    closed := m % 2 = 0 }

namespace Interval

def contains (i : Interval) (d : Decimal) : Bool :=
  let low := compareScaled d.digits d.exp i.low i.den
  let high := compareScaled d.digits d.exp i.high i.den
  (low == .gt || i.closed && low == .eq) && (high == .lt || i.closed && high == .eq)

/-- The least `k` with the value below `10^k`, for values above `10^(-400)`. -/
def scale (i : Interval) : Int :=
  ((Numeral.writeNat (i.value * Nat.pow 10 400 / i.den)).length : Int) - 400

/-- The point of the grid `10^exp` that lies in the interval, the nearer of two. -/
def onGrid (tie : Tie) (i : Interval) (exp : Int) : Option Decimal :=
  let below := i.value * Nat.pow 10 (-exp).toNat / (i.den * Nat.pow 10 exp.toNat)
  match i.contains ⟨below, exp⟩, i.contains ⟨below + 1, exp⟩ with
  | false, false => none
  | true, false => some ⟨below, exp⟩
  | false, true => some ⟨below + 1, exp⟩
  | true, true =>
    match compareScaled (2 * below + 1) exp (2 * i.value) i.den with
    | .lt => some ⟨below + 1, exp⟩
    | .gt => some ⟨below, exp⟩
    | .eq => if tie = .toEven ∧ below % 2 = 0 then some ⟨below, exp⟩ else some ⟨below + 1, exp⟩

end Interval

/-- Trailing zeros of the digits move into the exponent. -/
def Decimal.strip (d : Decimal) : Nat → Decimal
  | 0 => d
  | fuel + 1 =>
    if d.digits % 10 = 0 ∧ d.digits ≠ 0 then strip ⟨d.digits / 10, d.exp + 1⟩ fuel else d

/-- Seventeen digits tell any two values apart; past them the exact value is given. -/
def ofScaled (tie : Tie) (f : Binary.Format) (m : Nat) (q : Int) : Decimal :=
  if m = 0 then ⟨0, 0⟩
  else
    let i := Interval.ofScaled f m q
    let k := i.scale
    let found := (List.range 17).findSome? fun (n : Nat) => i.onGrid tie (k - (n + 1 : Nat))
    (found.getD ⟨(m <<< q.toNat) * Nat.pow 5 (-q).toNat, min q 0⟩).strip 20

/-! ## Layout -/

/-- All digits written out around the point, without an exponent. -/
def Decimal.positional (d : Decimal) : List Char :=
  let ds := Numeral.writeNat d.digits
  let point := (ds.length : Int) + d.exp
  if 0 ≤ d.exp then ds ++ List.replicate d.exp.toNat '0'
  else if 0 < point then ds.take point.toNat ++ '.' :: ds.drop point.toNat
  else '0' :: '.' :: List.replicate (-point).toNat '0' ++ ds

end ProcCall.Shortest

namespace ProcCall.Binary.Format

/-- Plain notation: shortest digits, no exponent, no point in whole numbers. -/
def plainText (f : Binary.Format) (bits : Nat) : List Char :=
  let sign := if f.isNegative bits then ['-'] else []
  match f.magnitude bits with
  | .nan => "NaN".toList
  | .infinite => sign ++ "inf".toList
  | .finite m q => sign ++ (Shortest.ofScaled .up f m q).positional

end ProcCall.Binary.Format
