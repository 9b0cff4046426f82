import ReportServer.Table.Basic

/-!
# Column types

The types a column of a report may have. Each has a kind, which is what its cells hold, and values,
which become cells. Types of other names are not supported.
-/

namespace ReportServer.Database

open Table (Cell Kind)

/-- The type of a column. -/
inductive ColumnType where
  | int2
  | int4
  | int8
  | float4
  | float8
  | bool
  | text
  | timestamp
  | timestamptz
  | date
  | uuid
deriving DecidableEq, Repr

namespace ColumnType

/-- The names the database has for the types. -/
def names : List (String × ColumnType) :=
  [("INT2", int2), ("INT4", int4), ("INT8", int8), ("FLOAT4", float4), ("FLOAT8", float8),
    ("BOOL", bool), ("TEXT", text), ("VARCHAR", text), ("BPCHAR", text), ("NAME", text),
    ("CITEXT", text), ("TIMESTAMP", timestamp), ("TIMESTAMPTZ", timestamptz), ("DATE", date),
    ("UUID", uuid)]

/-- The type of a name. -/
def ofName? (name : String) : Option ColumnType := (names.find? (·.1 == name)).map Prod.snd

/-- What the cells of a column of the type hold. -/
def kind : ColumnType → Kind
  | int2 => .integer
  | int4 => .integer
  | int8 => .integer
  | float4 => .float
  | float8 => .float
  | bool => .boolean
  | text => .text
  | timestamp => .timestamp
  | timestamptz => .timestamp
  | date => .date
  | uuid => .text

/-- What a value of the type is. A number of single precision is its bits, and a universally unique
id is sixteen bytes; moments are in universal time, with a time zone or without. -/
@[reducible]
def Value : ColumnType → Type
  | int2 => Int16
  | int4 => Int32
  | int8 => Int64
  | float4 => UInt32
  | float8 => Decimal.Binary64
  | bool => Bool
  | text => String
  | timestamp => Moment
  | timestamptz => Moment
  | date => Date
  | uuid => Vector UInt8 16

end ColumnType

/-- A digit below sixteen, in lower case. -/
def lowerHexDigit (n : Nat) : Char := (Nat.digitChar n).toLower

/-- A byte as two digits. -/
def lowerHex (b : UInt8) : List Char := [lowerHexDigit (b.toNat / 16), lowerHexDigit (b.toNat % 16)]

/-- A universally unique id in its written form: groups of 4, 2, 2, 2 and 6 bytes. -/
def uuidText (bytes : List UInt8) : String :=
  let group (start size : Nat) := ((bytes.drop start).take size).flatMap lowerHex
  String.ofList (group 0 4 ++ '-' :: group 4 2 ++ '-' :: group 6 2 ++ '-' :: group 8 2 ++
    '-' :: group 10 6)

namespace ColumnType

/-- The cell of a value. -/
def cellOf : (t : ColumnType) → t.Value → Cell
  | int2, i => .integer i.toInt64
  | int4, i => .integer i.toInt64
  | int8, i => .integer i
  | float4, x => .float (.ofBinary32 x)
  | float8, x => .float x
  | bool, b => .boolean b
  | text, s => .text s
  | timestamp, m => .timestamp m
  | timestamptz, m => .timestamp m
  | date, d => .date d
  | uuid, bytes => .text (uuidText bytes.toList)

/-- The cell of a value that may be missing. -/
def cell (t : ColumnType) (value : Option t.Value) : Cell := value.elim .null t.cellOf

end ColumnType

end ReportServer.Database
