import ProcCall.Number.Integer

/-! # SQL type codes

The portable type codes with their names and spellings. Every other code is a vendor's.
-/

namespace ProcCall

inductive SqlType where
  | null | bit | tinyInt | smallInt | integer | bigInt | real | double | numeric | decimal
  | varchar | varBinary | date | time | timestamp | timestampWithTimezone
  | blob | clob | boolean | array | refCursor | other
  | vendor (code : Integer .w32)
  deriving DecidableEq, Repr

namespace SqlType

/-- The types with a code of their own. -/
def portable : List SqlType :=
  [null, bit, tinyInt, smallInt, integer, bigInt, real, double, numeric, decimal, varchar,
    varBinary, date, time, timestamp, timestampWithTimezone, blob, clob, boolean, array,
    refCursor, other]

def code : SqlType → Int
  | null => 0
  | bit => -7
  | tinyInt => -6
  | smallInt => 5
  | integer => 4
  | bigInt => -5
  | real => 7
  | double => 8
  | numeric => 2
  | decimal => 3
  | varchar => 12
  | varBinary => -3
  | date => 91
  | time => 92
  | timestamp => 93
  | timestampWithTimezone => 2014
  | blob => 2004
  | clob => 2005
  | boolean => 16
  | array => 2003
  | refCursor => 2012
  | other => 1111
  | vendor c => c.val

def ofCode (c : Integer .w32) : SqlType :=
  (portable.find? fun t => t.code == c.val).getD (vendor c)

/-- The SQL name, which also names the element type of arrays. -/
def name : SqlType → String
  | null => "NULL"
  | bit => "BIT"
  | tinyInt => "TINYINT"
  | smallInt => "SMALLINT"
  | integer => "INTEGER"
  | bigInt => "BIGINT"
  | real => "REAL"
  | double => "DOUBLE"
  | numeric => "NUMERIC"
  | decimal => "DECIMAL"
  | varchar => "VARCHAR"
  | varBinary => "VARBINARY"
  | date => "DATE"
  | time => "TIME"
  | timestamp => "TIMESTAMP"
  | timestampWithTimezone => "TIMESTAMP WITH TIME ZONE"
  | blob => "BLOB"
  | clob => "CLOB"
  | boolean => "BOOLEAN"
  | array => "ARRAY"
  | refCursor => "REF CURSOR"
  | other => "OTHER"
  | vendor _ => "OTHER"

def display : SqlType → String
  | vendor c => "VENDOR(" ++ String.ofList (Numeral.writeInt c.val) ++ ")"
  | t => t.name

/-- The spelling of a portable type in declarations. -/
def tag : SqlType → String
  | null => "null"
  | bit => "bit"
  | tinyInt => "tiny_int"
  | smallInt => "small_int"
  | integer => "integer"
  | bigInt => "big_int"
  | real => "real"
  | double => "double"
  | numeric => "numeric"
  | decimal => "decimal"
  | varchar => "varchar"
  | varBinary => "var_binary"
  | date => "date"
  | time => "time"
  | timestamp => "timestamp"
  | timestampWithTimezone => "timestamp_with_timezone"
  | blob => "blob"
  | clob => "clob"
  | boolean => "boolean"
  | array => "array"
  | refCursor => "ref_cursor"
  | other => "other"
  | vendor _ => "vendor"

def ofTag? (s : String) : Option SqlType := portable.find? fun t => t.tag == s

end SqlType

end ProcCall
