import ProcCall.Unicode.Ranges
import ProcCall.Unicode.ClusterTable

/-! # User-perceived characters

A text is cut between any two characters that do not attach to each other. Attachment
is decided by the two neighbours alone; the joins inside syllables, flags and
pictographs, where nothing has case, are not made.
-/

namespace ProcCall.Unicode

def isControl (c : Char) : Bool :=
  c = '\r' || c = '\n' || inRanges controlRanges c

/-- Marks, joiners and vowel signs belong to the character before them. -/
def isExtending (c : Char) : Bool :=
  128 ≤ c.toNat && (c = '\u200d' || inRanges extendRanges c || inRanges spacingMarkRanges c)

def isPrepending (c : Char) : Bool := 128 ≤ c.toNat && inRanges prependRanges c

def attaches (a b : Char) : Bool :=
  if a = '\r' ∧ b = '\n' then true
  else !isControl a && !isControl b && (isExtending b || isPrepending a)

def clusters (s : List Char) : List (List Char) := s.splitBy attaches

end ProcCall.Unicode
