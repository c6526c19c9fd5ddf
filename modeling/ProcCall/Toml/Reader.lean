import ProcCall.Toml.Scalar
import ProcCall.Toml.Tree

/-! # Reading TOML

A document is a list of lines: keys with values, and headers that open a table or a row
of an array of tables.
-/

namespace ProcCall.Toml

/-- Arrays and inline tables nest less deeply than this, and no key has more parts. -/
def depthLimit : Nat := 79

/-! ## Keys -/

def isBare (c : Char) : Bool :=
  c.isDigit || ('a' ≤ c && c ≤ 'z') || ('A' ≤ c && c ≤ 'Z') || c = '-' || c = '_'

def readPart : List Char → Option (String × List Char)
  | [] => none
  | c :: rest =>
    if c = '"' || c = '\'' then
      (readLine (c :: rest)).map fun (cs, rest) => (String.ofList cs, rest)
    else
      let name := (c :: rest).takeWhile isBare
      if name.isEmpty then none else some (String.ofList name, (c :: rest).drop name.length)

/-- A key of at most `most` parts, with blanks around each: the path and the last part. -/
def readKey : (most : Nat) → List Char → Option ((List String × String) × List Char)
  | 0, _ => none
  | most + 1, s => do
    let (part, rest) ← readPart (skipBlanks s)
    match skipBlanks rest with
    | '.' :: rest =>
      let ((path, key), rest) ← readKey most rest
      some ((part :: path, key), rest)
    | rest => some (([], part), rest)

/-- A key, an equals sign and what follows the blanks after it. -/
def readKeyEquals (s : List Char) : Option ((List String × String) × List Char) := do
  let (key, rest) ← readKey depthLimit s
  match rest with
  | '=' :: rest => some (key, skipBlanks rest)
  | _ => none

/-! ## Values -/

/-- The items of an array up to its closing bracket. A comma may follow the last one. -/
def readItems (value : List Char → Option (Json × List Char)) :
    (fuel : Nat) → List Char → Option (List Json × List Char)
  | 0, _ => none
  | fuel + 1, s =>
    match skipTrivia false s with
    | ']' :: rest => some ([], rest)
    | s => do
      let (x, rest) ← value s
      match skipTrivia false rest with
      | ',' :: rest => (readItems value fuel rest).map fun (xs, rest) => (x :: xs, rest)
      | ']' :: rest => some ([x], rest)
      | _ => none

def readEntry (value : List Char → Option (Json × List Char)) (s : List Char) :
    Option (Entry × List Char) := do
  let ((path, key), rest) ← readKeyEquals s
  let (x, rest) ← value rest
  some (⟨path, key, x⟩, rest)

/-- The entries of an inline table, one at least, up to its closing brace. -/
def readEntries (value : List Char → Option (Json × List Char)) :
    (fuel : Nat) → List Char → Option (List Entry × List Char)
  | 0, _ => none
  | fuel + 1, s => do
    let (e, rest) ← readEntry value s
    match skipBlanks rest with
    | ',' :: rest => (readEntries value fuel rest).map fun (es, rest) => (e :: es, rest)
    | '\x7d' :: rest => some ([e], rest)
    | _ => none

/-- The rest of an inline table. -/
def readInline (value : List Char → Option (Json × List Char)) (s : List Char) :
    Option (Json × List Char) :=
  match skipBlanks s with
  | '\x7d' :: rest => some (.obj [], rest)
  | s => do
    let (entries, rest) ← readEntries value (s.length + 1) s
    let fields ← Fields.insertAll [] entries
    some (fields.toJson, rest)

/-- A value that nests at most `depth` deep. -/
def readValue : (depth : Nat) → List Char → Option (Json × List Char)
  | 0, s => readScalar s
  | depth + 1, s =>
    match s with
    | '[' :: rest =>
      (readItems (readValue depth) (rest.length + 1) rest).map fun (xs, rest) => (.arr xs, rest)
    | '\x7b' :: rest => readInline (readValue depth) rest
    | s => readScalar s

/-! ## Lines -/

inductive Line where
  | entry (e : Entry)
  | table (path : List String) (key : String)
  | row (path : List String) (key : String)

def readHeader (s : List Char) : Option (Line × List Char) :=
  match s with
  | '[' :: '[' :: rest => do
    let ((path, key), rest) ← readKey depthLimit rest
    match rest with
    | ']' :: ']' :: rest => some (.row path key, rest)
    | _ => none
  | '[' :: rest => do
    let ((path, key), rest) ← readKey depthLimit rest
    match rest with
    | ']' :: rest => some (.table path key, rest)
    | _ => none
  | _ => none

def readContent (s : List Char) : Option (Line × List Char) :=
  match s with
  | '[' :: _ => readHeader s
  | s => (readEntry (readValue depthLimit) s).map fun (e, rest) => (.entry e, rest)

/-- The lines with content; `fuel` bounds the number of all lines. -/
def readLinesOf : (fuel : Nat) → List Char → Option (List Line)
  | 0, _ => none
  | fuel + 1, s =>
    match skipBlanks s with
    | [] => some []
    | s =>
      match endLine? s with
      | some rest => readLinesOf fuel rest
      | none => do
        let (line, rest) ← readContent s
        let lines ← readLinesOf fuel (← endLine? rest)
        some (line :: lines)

/-! ## Documents -/

/-- The entries before the next header. -/
def entriesBefore : List Line → List Entry
  | .entry e :: rest => e :: entriesBefore rest
  | _ => []

/-- The lines from the next header on. -/
def fromHeader : List Line → List Line
  | .entry _ :: rest => fromHeader rest
  | lines => lines

theorem length_fromHeader (lines : List Line) : (fromHeader lines).length ≤ lines.length := by
  fun_induction fromHeader lines with
  | case1 e rest ih => simp; omega
  | case2 => exact Nat.le_refl _

/-- Opens the tables of the remaining lines, which begin with a header. -/
def openTables (fields : Fields) : List Line → Option Fields
  | [] => some fields
  | .entry _ :: _ => none
  | .table path key :: rest =>
    have := length_fromHeader rest
    (fields.alter (Fields.openTable (entriesBefore rest)) path key).bind fun fields =>
      openTables fields (fromHeader rest)
  | .row path key :: rest =>
    have := length_fromHeader rest
    (fields.alter (Fields.openRow (entriesBefore rest)) path key).bind fun fields =>
      openTables fields (fromHeader rest)
termination_by lines => lines.length
decreasing_by all_goals simp; omega

/-- A mark of the byte order may come first. -/
def skipMark : List Char → List Char
  | '\ufeff' :: rest => rest
  | s => s

def read? (s : String) : Option Json := do
  let text := skipMark s.toList
  let lines ← readLinesOf (text.length + 1) text
  let fields ← Fields.insertAll [] (entriesBefore lines)
  (← openTables fields (fromHeader lines)).toJson

end ProcCall.Toml
