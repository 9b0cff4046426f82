import ReportServer.Database.Statement
import ReportServer.Report.Stored

/-!
# Definitions in the database

Report definitions are looked up by id or listed. A listing leaves out the rows whose extension
names no format, with a warning; a look-up of such a row fails.
-/

namespace ReportServer.Database

open Trail (Traced)
open Report (ExportError Definition Stored)

/-- Look a definition up by its id. -/
def findStatement : Statement where
  name := "find_report_definition_by_id"
  sql := "
            SELECT id, report_name, query, file_extension, sheet_number,
                   created_by, created_at
            FROM reporting.report_definitions
            WHERE id = $1
            "

/-- List the definitions of a group, or all of them, by name and then by id. -/
def listStatement : Statement where
  name := "list_report_definitions"
  sql := "
            SELECT d.id, d.report_name, d.query, d.file_extension, d.sheet_number,
                   d.created_by, d.created_at
            FROM reporting.report_definitions d
            WHERE $1::text IS NULL
               OR EXISTS (
                   SELECT 1
                   FROM reporting.report_query_groups g
                   WHERE g.report_id = d.id AND g.group_name = $1
               )
            ORDER BY d.report_name, d.id
            "

/-- Read a stored definition from a row. -/
def storedOfRow (d : Driver) (row : Row) : Except String Stored := do
  let id ← d.required row .int8 "id"
  let name ← d.required row .text "report_name"
  let query ← d.required row .text "query"
  let extension ← d.required row .text "file_extension"
  let sheet ← d.required row .int4 "sheet_number"
  let createdBy ← d.optional row .text "created_by"
  let createdAt ← d.required row .timestamptz "created_at"
  return ⟨id, name, query, extension, sheet, createdBy, createdAt⟩

/-- The stored definitions of an answer. -/
def storedOfRows (d : Driver) (rows : List Row) : Except String (List Stored) :=
  rows.mapM (storedOfRow d)

/-- The stored definition of an answer that has at most one row. -/
def storedOfFirst (d : Driver) : List Row → Except String (Option Stored)
  | [] => .ok none
  | row :: _ => (storedOfRow d row).map some

/-- Look a stored definition up. -/
def findStored (l : Link) (id : Int64) : Traced (Except String (Option Stored)) := do
  return (← findStatement.run l [.integer id]).bind (storedOfFirst l.driver)

/-- List stored definitions. -/
def listStored (l : Link) (group : Option String) : Traced (Except String (List Stored)) := do
  return (← listStatement.run l [.text group]).bind (storedOfRows l.driver)

/-- The definition of an id. -/
def find (l : Link) (id : Int64) : Traced (Except ExportError (Option Definition)) := do
  match ← findStored l id with
  | .error detail => return .error (.database detail)
  | .ok none => return .ok none
  | .ok (some stored) => return stored.definition.map some

/-- Where the warnings about stored definitions come from. -/
def definitionsTarget : String := "persistence::repositories::report_definition"

/-- The definitions among stored ones; the others are warned about. -/
def usable : List Stored → Traced (List Definition)
  | [] => return []
  | stored :: rest => do
    match stored.definition with
    | .ok d => return d :: (← usable rest)
    | .error e =>
      Traced.log .warn definitionsTarget "Skipping report definition"
        [("report_id", .int stored.id.toInt), ("error", .str e.message)]
      usable rest

/-- The definitions of a group, or all of them. -/
def list (l : Link) (group : Option String) : Traced (Except ExportError (List Definition)) := do
  match ← listStored l group with
  | .error detail => return .error (.database detail)
  | .ok stored => return .ok (← usable stored)

end ReportServer.Database
