import ReportServer.Delivery.Reading
import ReportServer.Report.Tracking
import ReportServer.Trail.Traced

/-!
# Exports under way

An export whose answer has been built but whose body may still be read: the publication, and what
a tracking record will say if the publication is delivered.
-/

namespace ReportServer.Export

open Trail (Traced)

/-- An export under way. -/
structure InFlight where
  reportId : Int64
  generatedBy : String
  outputLocation : String
  format : Report.Extension
  publication : Delivery.Publication
deriving DecidableEq, Repr

/-- Where the events about exports come from. -/
def logTarget : String := "report_service_api::services::report_export"

/-- Where the events about publications come from. -/
def streamTarget : String := "report_service_api::services::stream_publisher"

/-- An id as a value of an event. -/
def idField (id : Int64) : String × Json.Value := ("report_id", .int id.toInt)

/-- The record of an export that was delivered at a moment. -/
def InFlight.tracking (e : InFlight) (moment : Moment) : Report.Tracking :=
  ⟨e.reportId, moment, e.generatedBy, e.outputLocation⟩

/-- A way to write a tracking record. -/
abbrev Record := Report.Tracking → Traced (Except Report.ExportError Unit)

/-- What follows the settling of a publication: the record that was written, if one was. -/
def InFlight.settle (record : Record) (moment : Moment) (e : InFlight) :
    Delivery.Outcome → Traced (Option Report.Tracking)
  | .sinkClosed => do
    Traced.measure (.exportFailed "publish")
    Traced.log .warn logTarget "Report not delivered, tracking skipped"
      [("error", .str Delivery.PublishError.sinkClosed.message), idField e.reportId]
    return none
  | .delivered bytes => do
    Traced.measure (.reportExported e.format)
    Traced.measure (.exportBytes e.format bytes)
    let entry := e.tracking moment
    Traced.call (.record entry)
    match ← record entry with
    | .ok () =>
      Traced.log .info logTarget "Report delivered" [("bytes", .int bytes), idField e.reportId]
      return some entry
    | .error err =>
      Traced.measure .trackingFailed
      Traced.log .warn logTarget "Failed to record report tracking"
        [("error", .str err.message), idField e.reportId]
      return none

/-- The event about a body that was dropped too early. -/
def bodyDropped (p : Delivery.Publication) : Traced Unit :=
  if p.undelivered then
    Traced.log .debug streamTarget "Response body dropped before the artifact was delivered"
      [("delivered", .int p.handed), ("expected", .int p.expected)]
  else pure ()

/-- The event about a writer that had bytes left when the body was dropped. -/
def writerStopped (p : Delivery.Publication) : Traced Unit :=
  if p.unsent.isEmpty then pure ()
  else Traced.log .debug streamTarget "Response sink closed during write" [("error", .str "broken pipe")]

/-- The events about a body that is gone and the writer behind it. -/
def bodyGone (p : Delivery.Publication) : Traced Unit := do
  bodyDropped p
  writerStopped p

end ReportServer.Export
