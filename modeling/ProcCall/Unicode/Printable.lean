import ProcCall.Unicode.Ranges
import ProcCall.Unicode.ClusterTable
import ProcCall.Unicode.PrintableTable

/-! # Printable characters

A character shows on its own when it has a glyph and does not attach to another one.
-/

namespace ProcCall.Unicode

/-- The skin tones attach to an emoji but have a glyph of their own. -/
def isSkinTone (c : Char) : Bool := 0x1F3FB ≤ c.toNat && c.toNat ≤ 0x1F3FF

def isPrintable (c : Char) : Bool :=
  if c.toNat < 127 then 32 ≤ c.toNat
  else !inRanges unprintableRanges c && (isSkinTone c || !inRanges extendRanges c)

end ProcCall.Unicode
