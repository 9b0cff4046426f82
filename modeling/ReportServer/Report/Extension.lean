import ReportServer.Text.Blank
import ReportServer.Text.Lowercase

/-!
# File extensions

A report is exported as CSV or as a workbook. The extension stored for a report is read with
blanks around it, dots in front of it and letters of either case allowed; anything else is
refused with the stored text, never replaced by a default.
-/

namespace ReportServer.Report

/-- The formats a report is exported in. -/
inductive Extension where
  | csv
  | xlsx
deriving DecidableEq, Repr

/-- A stored extension that names no format, as it was stored. -/
structure UnknownExtension where
  value : String
deriving DecidableEq, Repr

namespace Extension

/-- The extension as file names and messages spell it. -/
def name : Extension → String
  | csv => "csv"
  | xlsx => "xlsx"

/-- The folder of the output location that holds files of this format. -/
def folder : Extension → String
  | csv => "csv"
  | xlsx => "excel"

/-- The media type of a file of this format. -/
def contentType : Extension → String
  | csv => "text/csv; charset=utf-8"
  | xlsx => "application/vnd.openxmlformats-officedocument.spreadsheetml.sheet"

/-- The spelling that decides which format is meant: blanks and dots stripped, in lower case. -/
def normalized (s : String) : String :=
  Text.lowercase (String.ofList ((Text.strip Text.isBlank s.toList).dropWhile (· == '.')))

/-- Read a stored extension. -/
def parse (s : String) : Except UnknownExtension Extension :=
  if normalized s = "csv" then .ok csv
  else if normalized s = "xlsx" then .ok xlsx
  else .error ⟨s⟩

end Extension

/-- What is reported for an unknown extension. -/
def UnknownExtension.message (e : UnknownExtension) : String :=
  "Invalid report file extension '" ++ e.value ++ "' (expected one of: csv, xlsx)"

end ReportServer.Report
