import ReportServer.Calendar
import ReportServer.Json.Value
import ReportServer.Report.Extension
import ReportServer.Text.Blank

/-!
# Tracking records

Who exported which report, when, and where its file would be found. The output location joins a
base, the folder of the format and the file name; slashes at the end of the base do not count, and
an empty base gives a relative location.
-/

namespace ReportServer.Report

/-- A record of one delivered export. -/
structure Tracking where
  reportId : Int64
  generatedAt : Moment
  generatedBy : String
  outputLocation : String
deriving DecidableEq, Repr

/-- Where a file of a format is found below a base. -/
def outputLocation (base : String) (extension : Extension) (filename : String) : String :=
  let base := Text.dropTrailingSlashes base
  let inside := extension.folder ++ "/" ++ filename
  if base.isEmpty then inside else base ++ "/" ++ inside

/-- A record as JSON. -/
def Tracking.toJson (r : Tracking) : Json.Value :=
  .obj [("reportId", .int r.reportId.toInt), ("generatedAt", .str r.generatedAt.zulu),
    ("generatedBy", .str r.generatedBy), ("outputLocation", .str r.outputLocation)]

end ReportServer.Report
