import ReportServer.Database.ColumnType
import ReportServer.Trail.Traced

/-!
# The link to the database

What the database does with a statement is a parameter: it answers, it fails, or it stays silent.
A statement is prepared, which tells its columns, or run, which gives rows; while the link is down
nothing is sent, and everything fails with what is wrong with the link.

The values of a row arrive as bytes. How they are read is a parameter too: the driver is asked for
a value of a type, at a place of the row or in the column of a name, and gives it or says what is
wrong.
-/

namespace ReportServer.Database

open Trail (Traced Param)

/-- A column of an answer: its name and the name of its type. -/
structure WireColumn where
  name : String
  typeName : String
deriving DecidableEq, Repr

/-- A value of an answer: the column it stands in, and its bytes, none for null. -/
structure WireValue where
  column : WireColumn
  bytes : Option (List UInt8)
deriving DecidableEq, Repr

/-- A row of an answer. -/
abbrev Row := List WireValue

/-- How a value of a row is asked for: by its place or by the name of its column. -/
inductive ColumnIndex where
  | place (i : Nat)
  | name (s : String)
deriving DecidableEq, Repr

/-- What reads the values of rows. -/
structure Driver where
  /-- The value of a type at an index, none for null, or what is wrong. -/
  get : (t : ColumnType) → Row → ColumnIndex → Except String (Option t.Value)
  /-- What is wrong where a null must not be. -/
  unexpectedNull : ColumnIndex → String

/-- A driver that reads nothing. -/
def Driver.refusing (detail : String) : Driver := ⟨fun _ _ _ => .error detail, fun _ => detail⟩

/-- What becomes of a request. -/
inductive Reply (α : Type) where
  | answered (a : α)
  | failed (detail : String)
  | silent
deriving DecidableEq, Repr

/-- A database that can be reached. For the answer to a report's query one waits only so long; a
statement of the server's own is waited for until it ends. -/
structure Session where
  prepare : String → Reply (List WireColumn)
  fetch : String → Reply (List Row)
  run : String → List Param → Except String (List Row)

/-- The link to the database. -/
inductive Link where
  | down (detail : String)
  | up (s : Session) (d : Driver)

namespace Link

/-- What reads the rows that come over the link; while it is down none come. -/
def driver : Link → Driver
  | down detail => .refusing detail
  | up _ d => d

/-- Prepare a report's query: its columns. -/
def prepare (l : Link) (sql : String) : Traced (Reply (List WireColumn)) :=
  match l with
  | down detail => pure (.failed detail)
  | up s _ => do
    Traced.call (.prepare sql)
    return s.prepare sql

/-- Run a report's query: its rows. -/
def fetch (l : Link) (sql : String) : Traced (Reply (List Row)) :=
  match l with
  | down detail => pure (.failed detail)
  | up s _ => do
    Traced.call (.fetch sql [])
    return s.fetch sql

/-- Run a statement of the server's own: its rows. -/
def run (l : Link) (sql : String) (params : List Param) : Traced (Except String (List Row)) :=
  match l with
  | down detail => pure (.error detail)
  | up s _ => do
    Traced.call (.fetch sql params)
    return s.run sql params

end Link

end ReportServer.Database
