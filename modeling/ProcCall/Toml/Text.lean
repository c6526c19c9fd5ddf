import ProcCall.Value.Uuid

/-! # Characters of TOML

Blanks, line ends, comments and the four kinds of strings.
-/

namespace ProcCall.Toml

/-- A character that may stand in a comment or a string. -/
def isText (c : Char) : Bool := c = '\t' || (32 ≤ c.toNat && c.toNat ≠ 127)

def skipBlanks (s : List Char) : List Char := s.dropWhile fun c => c = ' ' || c = '\t'

/-- The text after a line end. -/
def lineEnd? : List Char → Option (List Char)
  | '\n' :: rest | '\r' :: '\n' :: rest => some rest
  | _ => none

/-- Passes over blanks, line ends and comments. -/
def skipTrivia : (inComment : Bool) → List Char → List Char
  | _, [] => []
  | _, '\n' :: rest => skipTrivia false rest
  | _, '\r' :: '\n' :: rest => skipTrivia false rest
  | true, c :: rest => if isText c then skipTrivia true rest else c :: rest
  | false, c :: rest =>
    if c = ' ' || c = '\t' then skipTrivia false rest
    else if c = '#' then skipTrivia true rest
    else c :: rest

def skipComment : List Char → List Char
  | '#' :: rest => rest.dropWhile isText
  | s => s

/-- Nothing but blanks and a comment up to the end of the line. -/
def endLine? (s : List Char) : Option (List Char) :=
  match skipComment (skipBlanks s) with
  | [] => some []
  | s => lineEnd? s

/-! ## Strings -/

def codePoint? (digits : List Char) : Option Char := do
  let n ← Uuid.readHex 0 digits
  if n.isValidChar then some (Char.ofNat n) else none

/-- What a backslash stands for together with the text after it. -/
def escape? : List Char → Option (Char × List Char)
  | 'b' :: rest => some (Char.ofNat 8, rest)
  | 'f' :: rest => some (Char.ofNat 12, rest)
  | 'n' :: rest => some ('\n', rest)
  | 'r' :: rest => some ('\r', rest)
  | 't' :: rest => some ('\t', rest)
  | '"' :: rest => some ('"', rest)
  | '\\' :: rest => some ('\\', rest)
  | 'u' :: a :: b :: c :: d :: rest => (codePoint? [a, b, c, d]).map fun x => (x, rest)
  | 'U' :: a :: b :: c :: d :: e :: f :: g :: h :: rest =>
    (codePoint? [a, b, c, d, e, f, g, h]).map fun x => (x, rest)
  | _ => none

/-- The rest of a string on one line; `fuel` bounds its length. -/
def readBasic : (fuel : Nat) → List Char → Option (List Char × List Char)
  | 0, _ => none
  | fuel + 1, s =>
    match s with
    | [] => none
    | '"' :: rest => some ([], rest)
    | '\\' :: rest => do
      let (c, rest) ← escape? rest
      let (cs, rest) ← readBasic fuel rest
      some (c :: cs, rest)
    | c :: rest =>
      if isText c then (readBasic fuel rest).map fun (cs, rest) => (c :: cs, rest) else none

def readLiteral : List Char → Option (List Char × List Char)
  | [] => none
  | '\'' :: rest => some ([], rest)
  | c :: rest =>
    if isText c then (readLiteral rest).map fun (cs, rest) => (c :: cs, rest) else none

/-- Three quotes end a string of several lines. Up to two more before them belong to it. -/
def closing? (quote : Char) (s : List Char) : Option (List Char × List Char) :=
  let run := (s.takeWhile (· = quote)).length
  if run < 3 then none
  else
    let extra := min (run - 3) 2
    some (List.replicate extra quote, s.drop (extra + 3))

/-- A backslash at the end of a line hides it and the blanks that begin the next ones. -/
def joined? (s : List Char) : Option (List Char) :=
  (lineEnd? (skipBlanks s)).map skipLines
where
  skipLines : List Char → List Char
    | '\n' :: rest | '\r' :: '\n' :: rest | ' ' :: rest | '\t' :: rest => skipLines rest
    | s => s

/-- The rest of a string of several lines; line ends become line feeds. -/
def readLines (quote : Char) (escapes : Bool) :
    (fuel : Nat) → List Char → Option (List Char × List Char)
  | 0, _ => none
  | fuel + 1, s =>
    match closing? quote s with
    | some found => some found
    | none =>
      match lineEnd? s with
      | some rest => (readLines quote escapes fuel rest).map fun (cs, rest) => ('\n' :: cs, rest)
      | none =>
        match s with
        | [] => none
        | c :: rest =>
          if escapes && c = '\\' then
            match joined? rest with
            | some rest => readLines quote escapes fuel rest
            | none => do
              let (c, rest) ← escape? rest
              let (cs, rest) ← readLines quote escapes fuel rest
              some (c :: cs, rest)
          else if isText c then
            (readLines quote escapes fuel rest).map fun (cs, rest) => (c :: cs, rest)
          else none

/-- A line end right after the opening quotes is not part of the string. -/
def readLinesAfter (quote : Char) (escapes : Bool) (s : List Char) :
    Option (List Char × List Char) :=
  readLines quote escapes (s.length + 1) ((lineEnd? s).getD s)

/-- A string on one line, quoted in either way. -/
def readLine : List Char → Option (List Char × List Char)
  | '"' :: rest => readBasic (rest.length + 1) rest
  | '\'' :: rest => readLiteral rest
  | _ => none

def readString : List Char → Option (List Char × List Char)
  | '"' :: '"' :: '"' :: rest => readLinesAfter '"' true rest
  | '\'' :: '\'' :: '\'' :: rest => readLinesAfter '\'' false rest
  | s => readLine s

end ProcCall.Toml
