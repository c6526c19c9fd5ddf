import ProcCall.Unicode.Printable

/-! # Quoted text

The notation of texts in diagnostic output: double quotes around, a backslash before
what could be misread, and code points for what does not show.
-/

namespace ProcCall.Text

def writeHex (n : Nat) : List Char := Nat.toDigits 16 n

/-- At least `width` hexadecimal digits. -/
def paddedHex (width n : Nat) : List Char :=
  let ds := writeHex n
  List.replicate (width - ds.length) '0' ++ ds

def quoteChar (c : Char) : List Char :=
  if c = '"' then ['\\', '"']
  else if c = '\\' then ['\\', '\\']
  else if c = '\n' then ['\\', 'n']
  else if c = '\r' then ['\\', 'r']
  else if c = '\t' then ['\\', 't']
  else if c.toNat = 0 then ['\\', '0']
  else if Unicode.isPrintable c then [c]
  else '\\' :: 'u' :: '\x7b' :: writeHex c.toNat ++ ['\x7d']

def quoted (s : String) : String :=
  String.ofList ('"' :: s.toList.flatMap quoteChar ++ ['"'])

/-- An optional text in diagnostic output. -/
def quotedOption : Option String → String
  | none => "None"
  | some s => "Some(" ++ quoted s ++ ")"

end ProcCall.Text
