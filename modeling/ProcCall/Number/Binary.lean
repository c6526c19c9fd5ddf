/-! # Binary floating point

A format is the widths of its two fields. Finite values are decoded to `m * 2^q`,
and every result is the exact quotient rounded once, to nearest with ties to the
even neighbour, so no step depends on machine arithmetic.
-/

namespace ProcCall.Binary

structure Format where
  fraction : Nat
  exponent : Nat
  deriving DecidableEq, Repr

def single : Format := ⟨23, 8⟩

def double : Format := ⟨52, 11⟩

/-- What the bits below the sign stand for. -/
inductive Magnitude where
  | nan
  | infinite
  | finite (m : Nat) (q : Int)
  deriving DecidableEq, Repr

namespace Format

variable (f : Format)

/-- The exponent of the least subnormal. -/
def qMin : Int := 2 - ((1 <<< (f.exponent - 1) : Nat) : Int) - (f.fraction : Int)

/-- The bits of infinity, above those of every finite magnitude. -/
def infinity : Nat := ((1 <<< f.exponent) - 1) <<< f.fraction

def signBit : Nat := 1 <<< (f.exponent + f.fraction)

def isNegative (bits : Nat) : Bool := bits / f.signBit % 2 == 1

def magnitude (bits : Nat) : Magnitude :=
  let body := bits % f.signBit
  let e := body >>> f.fraction
  let low := body % (1 <<< f.fraction)
  if e = (1 <<< f.exponent) - 1 then (if low = 0 then .infinite else .nan)
  else if e = 0 then .finite low f.qMin
  else .finite ((1 <<< f.fraction) + low) (f.qMin + (e - 1 : Nat))

def isNaN (bits : Nat) : Bool := f.magnitude bits == .nan

/-- The quiet NaN. -/
def nan : Nat := f.infinity + (1 <<< (f.fraction - 1))

def withSign (negative : Bool) (bits : Nat) : Nat :=
  if negative then f.signBit + bits else bits

/-- The quotient rounded to nearest, a tie to the even neighbour. -/
def roundHalfEven (num den : Nat) : Nat :=
  let k := num / den
  match compare (2 * (num % den)) den with
  | .lt => k
  | .gt => k + 1
  | .eq => if k % 2 = 0 then k else k + 1

/-- The bits of the value nearest to `num / den`, without a sign. -/
def nearest (num den : Nat) : Nat :=
  if num = 0 then 0
  else
    let guess : Int := (num.log2 : Int) - (den.log2 : Int)
    let top := if num <<< (-guess).toNat ≥ den <<< guess.toNat then guess else guess - 1
    let q := max f.qMin (top - f.fraction)
    let m := roundHalfEven (num <<< (-q).toNat) (den <<< q.toNat)
    let bits := ((q - f.qMin).toNat <<< f.fraction) + m
    if bits < f.infinity then bits else f.infinity

/-- The bits of `m * 2^q`, rounded. -/
def ofScaled (m : Nat) (q : Int) : Nat :=
  f.nearest (m <<< q.toNat) (1 <<< (-q).toNat)

/-- The bits of `n`, rounded. -/
def ofInt (n : Int) : Nat := f.withSign (n < 0) (f.nearest n.natAbs 1)

/-- The value of the bits of `g` in the format `f`, rounded where it is narrower. -/
def convert (g : Format) (bits : Nat) : Nat :=
  f.withSign (g.isNegative bits) <|
    match g.magnitude bits with
    | .nan => f.nan
    | .infinite => f.infinity
    | .finite m q => f.ofScaled m q

end Format

end ProcCall.Binary
