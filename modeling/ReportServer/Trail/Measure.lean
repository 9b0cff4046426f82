import ReportServer.Report.Extension

/-!
# Measures

What the server counts and times. Durations are recorded without their value, because what the
library says about them is how many there were.
-/

namespace ReportServer.Trail

/-- How the query of a report ended. -/
inductive QueryOutcome where
  | completed
  | failed
  | timedOut
deriving DecidableEq, Repr

/-- The label of an outcome. -/
def QueryOutcome.name : QueryOutcome → String
  | completed => "completed"
  | failed => "failed"
  | timedOut => "timed_out"

/-- One thing measured. -/
inductive Measure where
  /-- A request was answered. -/
  | request (method path : String) (status : Nat)
  /-- A request took some time. -/
  | requestDuration (method path : String)
  /-- A report was delivered. -/
  | reportExported (format : Report.Extension)
  /-- The size of a delivered report. -/
  | exportBytes (format : Report.Extension) (bytes : Nat)
  /-- An export failed. -/
  | exportFailed (reason : String)
  /-- A delivered report could not be tracked. -/
  | trackingFailed
  /-- A statement of the server's own took some time. -/
  | statementDuration (query : String)
  /-- A report's query took some time. -/
  | queryDuration (outcome : QueryOutcome)
  /-- The number of rows of a report's query. -/
  | queryRows (rows : Nat)
  /-- The state of the connection pool. -/
  | connections (active idle total : Nat)
deriving DecidableEq, Repr

/-- What kind of series a measure belongs to. -/
inductive SeriesKind where
  | counter
  | histogram
  | gauge
deriving DecidableEq, Repr

/-- A point of a series: the series' name and labels, and the value added to it. -/
structure Point where
  kind : SeriesKind
  name : String
  /-- Label names and values, sorted by name. -/
  labels : List (String × String)
  /-- The value, where it does not depend on the clock. -/
  value : Option Nat
deriving DecidableEq, Repr

/-- The points a measure adds. -/
def Measure.points : Measure → List Point
  | request method path status =>
    [⟨.counter, "http_requests_total",
      [("method", method), ("path", path), ("status", toString status)], some 1⟩]
  | requestDuration method path =>
    [⟨.histogram, "http_request_duration_seconds", [("method", method), ("path", path)], none⟩]
  | reportExported format => [⟨.counter, "reports_exported_total", [("format", format.name)], some 1⟩]
  | exportBytes format bytes =>
    [⟨.histogram, "report_export_bytes", [("format", format.name)], some bytes⟩]
  | exportFailed reason => [⟨.counter, "report_export_failures_total", [("reason", reason)], some 1⟩]
  | trackingFailed => [⟨.counter, "report_tracking_failures_total", [], some 1⟩]
  | statementDuration query =>
    [⟨.histogram, "database_query_duration_seconds", [("query", query)], none⟩]
  | queryDuration outcome =>
    [⟨.histogram, "report_query_duration_seconds", [("outcome", outcome.name)], none⟩]
  | queryRows rows => [⟨.histogram, "report_query_rows", [], some rows⟩]
  | connections active idle total =>
    [⟨.gauge, "database_connections_active", [], some active⟩,
      ⟨.gauge, "database_connections_idle", [], some idle⟩,
      ⟨.gauge, "database_connections_total", [], some total⟩]

end ReportServer.Trail
