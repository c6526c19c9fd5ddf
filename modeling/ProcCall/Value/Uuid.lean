import ProcCall.Text.Quoted

/-! # Universally unique identifiers

Written as lower-case hexadecimal in groups of 8, 4, 4, 4 and 12 digits. Read in
either case, with or without the hyphens, in braces or as a URN.
-/

namespace ProcCall

structure Uuid where
  bits : BitVec 128
  deriving DecidableEq, Repr

namespace Uuid

def chars (u : Uuid) : List Char :=
  let ds := Text.paddedHex 32 u.bits.toNat
  ds.take 8 ++ '-' :: (ds.drop 8).take 4 ++ '-' :: (ds.drop 12).take 4 ++
    '-' :: (ds.drop 16).take 4 ++ '-' :: ds.drop 20

def hexValue? (c : Char) : Option Nat :=
  if '0' ≤ c ∧ c ≤ '9' then some (c.toNat - 48)
  else if 'a' ≤ c ∧ c ≤ 'f' then some (c.toNat - 87)
  else if 'A' ≤ c ∧ c ≤ 'F' then some (c.toNat - 55)
  else none

def readHex (n : Nat) : List Char → Option Nat
  | [] => some n
  | c :: cs => (hexValue? c).bind fun d => readHex (16 * n + d) cs

def readPlain? (s : List Char) : Option Uuid :=
  if s.length = 32 then (readHex 0 s).map fun n => ⟨BitVec.ofNat 128 n⟩ else none

/-- The hyphens must be where writing puts them. -/
def readHyphenated? (s : List Char) : Option Uuid :=
  if s.length = 36 ∧ s[8]? = some '-' ∧ s[13]? = some '-' ∧ s[18]? = some '-' ∧
      s[23]? = some '-' then
    readPlain? (s.take 8 ++ (s.drop 9).take 4 ++ (s.drop 14).take 4 ++
      (s.drop 19).take 4 ++ s.drop 24)
  else none

def read? (s : List Char) : Option Uuid :=
  if s.length = 32 then readPlain? s
  else if s.length = 36 then readHyphenated? s
  else if s.length = 38 ∧ s.head? = some '\x7b' ∧ s.getLast? = some '\x7d' then
    readHyphenated? ((s.drop 1).take 36)
  else if s.take 9 = "urn:uuid:".toList then readHyphenated? (s.drop 9)
  else none

end Uuid

end ProcCall
