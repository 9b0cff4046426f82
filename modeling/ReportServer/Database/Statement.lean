import ReportServer.Database.Link

/-!
# Statements of the server's own

The server reads report definitions and writes tracking records by statements of its own. Each is
timed, and the columns of its answer are found by their names. These statements have no time limit.
-/

namespace ReportServer.Database

open Trail (Traced Param)

/-- A statement of the server's own: the name it is timed under, and its text. -/
structure Statement where
  name : String
  sql : String
deriving DecidableEq, Repr

/-- Run a statement. -/
def Statement.run (s : Statement) (l : Link) (params : List Param) :
    Traced (Except String (List Row)) := do
  let answer ← l.run s.sql params
  Traced.measure (.statementDuration s.name)
  return answer

namespace Driver

/-- A value in the column of a name that may be null. -/
def optional (d : Driver) (row : Row) (t : ColumnType) (name : String) :
    Except String (Option t.Value) :=
  d.get t row (.name name)

/-- A value in the column of a name that must not be null. -/
def required (d : Driver) (row : Row) (t : ColumnType) (name : String) : Except String t.Value := do
  match ← d.get t row (.name name) with
  | some a => return a
  | none => .error (d.unexpectedNull (.name name))

end Driver

end ReportServer.Database
