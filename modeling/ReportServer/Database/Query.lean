import ReportServer.Database.Link

/-!
# Report queries

A report's query is prepared first. Its columns must all have supported types, or it is not run at
all. Then it is run, and every value is read by the type of its column; one value that cannot be
read fails the whole query. A query that takes too long is given up.
-/

namespace ReportServer.Database

open Trail (Traced)
open Report (ExportError)

/-- What runs the queries of reports: the link, and how long a query may take, in milliseconds. -/
structure QueryRunner where
  link : Link
  timeoutMs : Nat

/-- The column of a report and its type, if the type is supported. -/
def supportedColumn (c : WireColumn) : Except ExportError (Table.Column × ColumnType) :=
  match ColumnType.ofName? c.typeName with
  | some t => .ok (⟨c.name, t.kind⟩, t)
  | none => .error (.database ("column '" ++ c.name ++ "' has unsupported type " ++ c.typeName))

/-- The columns of a report and their types; an error names the first that is not supported. -/
def supportedColumns (cs : List WireColumn) : Except ExportError (List (Table.Column × ColumnType)) :=
  cs.mapM supportedColumn

/-- The cell of a row in a column. -/
def cellAt (d : Driver) (row : Row) (index : Nat) (t : ColumnType) : Except ExportError Table.Cell :=
  match d.get t row (.place index) with
  | .ok value => .ok (t.cell value)
  | .error detail => .error (.database detail)

/-- The cells of a row. -/
def cellsOf (d : Driver) (types : List ColumnType) (row : Row) : Except ExportError (List Table.Cell) :=
  types.zipIdx.mapM fun (t, index) => cellAt d row index t

/-- The table of rows. -/
def tableOf (d : Driver) (columns : List (Table.Column × ColumnType)) (rows : List Row) :
    Except ExportError Table := do
  let cells ← rows.mapM (cellsOf d (columns.map Prod.snd))
  Table.make (columns.map Prod.fst) cells

namespace QueryRunner

/-- Run a prepared statement. -/
def fetchTable (r : QueryRunner) (sql : String) (columns : List (Table.Column × ColumnType)) :
    Traced (Reply (Except ExportError Table)) := do
  match ← r.link.fetch sql with
  | .silent => return .silent
  | .failed detail => return .failed detail
  | .answered rows => return .answered (tableOf r.link.driver columns rows)

/-- A query without its time limit. -/
def run (r : QueryRunner) (sql : String) : Traced (Reply (Except ExportError Table)) := do
  match ← r.link.prepare sql with
  | .silent => return .silent
  | .failed detail => return .failed detail
  | .answered columns =>
    match supportedColumns columns with
    | .error e => return .answered (.error e)
    | .ok columns => r.fetchTable sql columns

/-- The detail of a query that was given up. -/
def timeoutDetail (r : QueryRunner) : String :=
  "query timed out after " ++ (Decimal.Binary64.ofQuotient false r.timeoutMs 1000 0).text ++ "s"

/-- What a reply means: how the query ended, and its table or why there is none. -/
def verdict (r : QueryRunner) :
    Reply (Except ExportError Table) → Trail.QueryOutcome × Except ExportError Table
  | .answered (.ok t) => (.completed, .ok t)
  | .answered (.error e) => (.failed, .error e)
  | .failed detail => (.failed, .error (.database detail))
  | .silent => (.timedOut, .error (.database r.timeoutDetail))

/-- Run a query. -/
def execute (r : QueryRunner) (sql : String) : Traced (Except ExportError Table) := do
  let (outcome, result) := r.verdict (← r.run sql)
  Traced.measure (.queryDuration outcome)
  match result with
  | .ok t =>
    Traced.measure (.queryRows t.rows.length)
    return .ok t
  | .error e => return .error e

end QueryRunner

end ReportServer.Database
