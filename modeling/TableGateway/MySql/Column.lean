/-!
# Columns of a MySQL result

Each column of a result has a name, a type, a sign and a character set. The types fall into families
that are decoded alike.
-/

namespace TableGateway.MySql

inductive ColumnType where
  | decimal
  | tiny
  | short
  | long
  | float
  | double
  | null
  | timestamp
  | longlong
  | int24
  | date
  | time
  | datetime
  | year
  | newdate
  | varchar
  | bit
  | timestamp2
  | datetime2
  | time2
  | typedArray
  | vector
  | unknown
  | json
  | newdecimal
  | enumeration
  | set
  | tinyBlob
  | mediumBlob
  | longBlob
  | blob
  | varString
  | string
  | geometry
  deriving DecidableEq, Inhabited

/-- What the cells of a column mean. -/
inductive Family where
  | integer
  | floating
  | decimal
  | date
  | timestamp
  | time
  /-- Texts and octets, and all types without a rule of their own. -/
  | content
  deriving DecidableEq, Inhabited

def ColumnType.family : ColumnType → Family
  | tiny | short | int24 | long | longlong | year => .integer
  | float | double => .floating
  | decimal | newdecimal => .decimal
  | date | newdate => .date
  | datetime | datetime2 | timestamp | timestamp2 => .timestamp
  | time | time2 => .time
  | _ => .content

def ColumnType.names : List (String × ColumnType) :=
  [("DECIMAL", decimal), ("TINY", tiny), ("SHORT", short), ("LONG", long), ("FLOAT", float),
    ("DOUBLE", double), ("NULL", null), ("TIMESTAMP", timestamp), ("LONGLONG", longlong),
    ("INT24", int24), ("DATE", date), ("TIME", time), ("DATETIME", datetime), ("YEAR", year),
    ("NEWDATE", newdate), ("VARCHAR", varchar), ("BIT", bit), ("TIMESTAMP2", timestamp2),
    ("DATETIME2", datetime2), ("TIME2", time2), ("TYPED_ARRAY", typedArray), ("VECTOR", vector),
    ("UNKNOWN", unknown), ("JSON", json), ("NEWDECIMAL", newdecimal), ("ENUM", enumeration),
    ("SET", set), ("TINY_BLOB", tinyBlob), ("MEDIUM_BLOB", mediumBlob), ("LONG_BLOB", longBlob),
    ("BLOB", blob), ("VAR_STRING", varString), ("STRING", string), ("GEOMETRY", geometry)]

def ColumnType.ofName? (name : String) : Option ColumnType :=
  names.lookup name

structure Column where
  name : String
  type : ColumnType
  isUnsigned : Bool
  characterSet : Nat
  deriving DecidableEq, Inhabited

/-- The character set of columns that hold octets and no text. -/
def binaryCharacterSet : Nat := 63

/-- The cells of the column are octets, whether they form a text or not. -/
def Column.isBinary (column : Column) : Bool :=
  column.characterSet == binaryCharacterSet

end TableGateway.MySql
