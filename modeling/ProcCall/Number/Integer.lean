/-! # Integers of a fixed width

An integer carries its width in its type and its range as a proof, so narrowing
is one decidable test. Decimal texts have at most one sign and ASCII digits only.
-/

namespace ProcCall

inductive IntWidth where
  | w8 | w16 | w32 | w64
  deriving DecidableEq, Repr

namespace IntWidth

def bits : IntWidth → Nat
  | w8 => 8 | w16 => 16 | w32 => 32 | w64 => 64

/-- As many values are negative as are not. -/
def half (w : IntWidth) : Nat := 1 <<< (w.bits - 1)

/-- The two's complement range of the width. -/
def Holds (w : IntWidth) (n : Int) : Prop := -(w.half : Int) ≤ n ∧ n < (w.half : Int)

instance (w : IntWidth) (n : Int) : Decidable (w.Holds n) :=
  inferInstanceAs (Decidable (_ ∧ _))

/-- The widest integers hold all the others. -/
theorem Holds.widen {w : IntWidth} {n : Int} (h : w.Holds n) : w64.Holds n := by
  cases w <;> simp only [Holds, half, bits] at * <;> omega

end IntWidth

abbrev Integer (w : IntWidth) := { n : Int // w.Holds n }

namespace Integer

def ofInt? (w : IntWidth) (n : Int) : Option (Integer w) :=
  if h : w.Holds n then some ⟨n, h⟩ else none

@[simp] theorem ofInt?_val {w : IntWidth} (n : Integer w) : ofInt? w n.val = some n := by
  simp [ofInt?, n.property]

theorem ofInt?_eq_some_iff {w : IntWidth} {n : Int} {k : Integer w} :
    ofInt? w n = some k ↔ k.val = n := by
  unfold ofInt?
  split
  · constructor
    · intro h; cases h; rfl
    · intro h; simp [← h]
  · rename_i h
    constructor
    · intro h'; cases h'
    · intro h'; exact absurd (h' ▸ k.property) h

theorem isSome_ofInt? {w : IntWidth} {n : Int} : (ofInt? w n).isSome = true ↔ w.Holds n := by
  unfold ofInt?; split <;> simp_all

end Integer

/-! ## Decimal text -/

namespace Numeral

def digitValue? (c : Char) : Option Nat :=
  if '0' ≤ c ∧ c ≤ '9' then some (c.toNat - 48) else none

/-- The number that a run of digits continues `n` with. -/
def readOn (n : Nat) : List Char → Option Nat
  | [] => some n
  | c :: cs => (digitValue? c).bind fun d => readOn (10 * n + d) cs

/-- One digit or more, and nothing else. -/
def readNat : List Char → Option Nat
  | [] => none
  | cs => readOn 0 cs

def readInt : List Char → Option Int
  | '-' :: cs => (readNat cs).map fun n => -(n : Int)
  | '+' :: cs => (readNat cs).map Int.ofNat
  | cs => (readNat cs).map Int.ofNat

def writeNat (n : Nat) : List Char := Nat.toDigits 10 n

def writeInt : Int → List Char
  | .ofNat n => writeNat n
  | .negSucc n => '-' :: writeNat (n + 1)

/-- At least `width` digits, with zeros in front. -/
def padded (width n : Nat) : List Char :=
  let ds := writeNat n
  List.replicate (width - ds.length) '0' ++ ds

end Numeral

end ProcCall
