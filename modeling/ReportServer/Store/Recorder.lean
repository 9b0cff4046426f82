import ReportServer.Report.Error
import ReportServer.Report.Tracking

/-!
# The recorder

Tracking records kept in memory, in the order in which they were written. A recorder may be out of
order, and then it refuses every record and keeps what it has.
-/

namespace ReportServer.Store

/-- Tracking records kept in memory. -/
structure Recorder where
  records : List Report.Tracking
  /-- Whether the recorder refuses every record. -/
  broken : Bool
deriving DecidableEq, Repr

namespace Recorder

/-- Whether a record can be written. -/
def verdict (r : Recorder) : Except Report.ExportError Unit :=
  if r.broken then .error (.database "tracking store unavailable") else .ok ()

/-- Write a record. -/
def record (r : Recorder) (entry : Report.Tracking) : Except Report.ExportError Recorder :=
  r.verdict.map fun _ => { r with records := r.records ++ [entry] }

end Recorder

end ReportServer.Store
