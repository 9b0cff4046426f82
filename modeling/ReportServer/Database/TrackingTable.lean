import ReportServer.Database.Statement
import ReportServer.Report.Error
import ReportServer.Report.Tracking

/-!
# Tracking records in the database

A tracking record is one row of a table. The database gives it an id and answers with the row.
-/

namespace ReportServer.Database

open Trail (Traced)

/-- Write a tracking record. -/
def insertStatement : Statement where
  name := "insert_report_tracking"
  sql := "
            INSERT INTO reporting.report_tracking
                (report_id, generated_at, generated_by, output_location)
            VALUES ($1, $2, $3, $4)
            RETURNING id, report_id, generated_at, generated_by, output_location
            "

/-- A row of the table: its id and the record. -/
structure TrackingRow where
  id : Int64
  record : Report.Tracking
deriving DecidableEq, Repr

/-- Read a row of the table. -/
def trackingOfRow (d : Driver) (row : Row) : Except String TrackingRow := do
  let id ← d.required row .int8 "id"
  let reportId ← d.required row .int8 "report_id"
  let generatedAt ← d.required row .timestamptz "generated_at"
  let generatedBy ← d.required row .text "generated_by"
  let location ← d.required row .text "output_location"
  return ⟨id, ⟨reportId, generatedAt, generatedBy, location⟩⟩

/-- The row of an answer that must have one. -/
def trackingOfFirst (d : Driver) : List Row → Except String TrackingRow
  | [] => .error "no rows returned by a query that expected to return at least one row"
  | row :: _ => trackingOfRow d row

/-- Where the events about tracking records come from. -/
def trackingTarget : String := "persistence::repositories::report_tracking"

/-- Write a tracking record. -/
def record (l : Link) (entry : Report.Tracking) : Traced (Except Report.ExportError Unit) := do
  let answer ← insertStatement.run l
    [.integer entry.reportId, .moment entry.generatedAt, .text (some entry.generatedBy),
      .text (some entry.outputLocation)]
  match answer.bind (trackingOfFirst l.driver) with
  | .error detail => return .error (.database detail)
  | .ok row =>
    Traced.log .debug trackingTarget "Report tracking recorded"
      [("tracking_id", .int row.id.toInt), ("report_id", .int row.record.reportId.toInt)]
    return .ok ()

end ReportServer.Database
