import ReportServer.Calendar
import ReportServer.Name.Filename
import ReportServer.Name.Sheet
import ReportServer.Report.Extension

/-!
# Report definitions

A stored report: its query, the format it is exported in, and the name that file names and
worksheet names are made from. Anything may be stored as a name; a worksheet name falls back to the
sheet number when nothing of the name is left.
-/

namespace ReportServer.Report

/-- A stored report. -/
structure Definition where
  id : Int64
  name : String
  query : String
  extension : Extension
  sheetNumber : Int32
  createdBy : Option String
  createdAt : Moment
deriving DecidableEq, Repr

/-- Where the report routes are. -/
def reportsPath : String := "/api/v1/reports"

namespace Definition

/-- The address of the report's export. -/
def downloadUrl (d : Definition) : String := reportsPath ++ "/" ++ toString d.id.toInt

/-- The worksheet name used when the report's name leaves none: numbers below one count as one. -/
def fallbackSheetName (number : Int32) : String := "Sheet" ++ toString (max number.toInt 1)

/-- The name of the report's worksheet. -/
def sheetName (d : Definition) : String :=
  (Name.cleanSheetName d.name).getD (fallbackSheetName d.sheetNumber)

/-- The name of a file made at a moment: the cleaned name, the stamp and the extension. -/
def filename (d : Definition) (moment : Moment) : String :=
  Name.cleanFilename d.name ++ "_" ++ String.ofList moment.stamp ++ "." ++ d.extension.name

end Definition

end ReportServer.Report
