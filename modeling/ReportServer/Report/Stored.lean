import ReportServer.Report.Definition
import ReportServer.Report.Error

/-!
# Stored definitions

A definition as the database holds it: its extension is a text that anybody may have written. It
becomes a definition when the text names a format.
-/

namespace ReportServer.Report

/-- A definition as the database holds it. -/
structure Stored where
  id : Int64
  name : String
  query : String
  extension : String
  sheetNumber : Int32
  createdBy : Option String
  createdAt : Moment
deriving DecidableEq, Repr

/-- The definition, if its extension names a format. -/
def Stored.definition (s : Stored) : Except ExportError Definition :=
  match Extension.parse s.extension with
  | .ok extension =>
    .ok ⟨s.id, s.name, s.query, extension, s.sheetNumber, s.createdBy, s.createdAt⟩
  | .error e => .error (.ofUnknownExtension e)

end ReportServer.Report
