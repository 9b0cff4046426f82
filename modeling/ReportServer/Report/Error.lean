import ReportServer.Report.Extension

/-!
# What can go wrong with an export

Every failure on the way from a report id to its file is one of five causes. The message is for
logs and for whoever is allowed to see it; the reason is the label the failure is counted under.
-/

namespace ReportServer.Report

/-- Why an export failed. -/
inductive ExportError where
  | notFound (id : Int64)
  | database (detail : String)
  | encoding (detail : String)
  | configuration (detail : String)
  | malformed (row expected actual : Nat)
deriving DecidableEq, Repr

namespace ExportError

/-- The sentence that describes the failure. -/
def message : ExportError → String
  | notFound id => "Report " ++ toString id.toInt ++ " not found"
  | database detail => "Database read failed: " ++ detail
  | encoding detail => "Encoding failed: " ++ detail
  | configuration detail => "Invalid report configuration: " ++ detail
  | malformed row expected actual =>
    "Malformed query result: row " ++ toString row ++ " has " ++ toString actual ++
      " values, expected " ++ toString expected

/-- The label the failure is counted under. -/
def reason : ExportError → String
  | notFound _ => "not_found"
  | database _ => "database"
  | encoding _ => "encoding"
  | configuration _ => "configuration"
  | malformed .. => "malformed_result"

/-- A report whose stored extension names no format is misconfigured. -/
def ofUnknownExtension (e : UnknownExtension) : ExportError := configuration e.message

end ExportError

end ReportServer.Report
