import ReportServer.Csv.Writer
import ReportServer.Report.Definition
import ReportServer.Text.Utf8
import ReportServer.Workbook.Basic

/-!
# Artifacts

The file that an export hands out: its bytes, its format and its name. A CSV artifact is the UTF-8
bytes of the table's CSV. How a workbook becomes the bytes of a file is a parameter, because
nothing here depends on it.
-/

namespace ReportServer.Report

/-- A file made for an export. -/
structure Artifact where
  bytes : List UInt8
  extension : Extension
  filename : String
deriving DecidableEq, Repr

namespace Artifact

/-- The number of bytes. -/
def size (a : Artifact) : Nat := a.bytes.length

/-- The media type of the file. -/
def contentType (a : Artifact) : String := a.extension.contentType

/-- The header value that offers the file for download under its name. -/
def disposition (a : Artifact) : String := "attachment; filename=\"" ++ a.filename ++ "\""

end Artifact

/-- The worksheet of a report. -/
def Definition.workbook (d : Definition) (t : Table) : Except ExportError Workbook :=
  Workbook.ofTable t d.sheetName

/-- The bytes of a report's file; `pack` turns a workbook into the bytes of its file. -/
def Definition.encodedBytes (pack : Workbook → List UInt8) (d : Definition) (t : Table) :
    Except ExportError (List UInt8) :=
  match d.extension with
  | .csv => .ok (Text.utf8 (Csv.write t))
  | .xlsx => (d.workbook t).map pack

/-- The file of a report made at a moment from a table. -/
def Definition.encode (pack : Workbook → List UInt8) (d : Definition) (t : Table) (moment : Moment) :
    Except ExportError Artifact :=
  (d.encodedBytes pack t).map fun bytes => ⟨bytes, d.extension, d.filename moment⟩

/-- What is encoded: the bytes, under the report's format and the name its file has then. -/
theorem Definition.encode_eq_ok_iff {pack : Workbook → List UInt8} {d : Definition} {t : Table} {moment : Moment}
    {a : Artifact} : d.encode pack t moment = .ok a ↔
      ∃ bytes : List UInt8, d.encodedBytes pack t = .ok bytes ∧ ⟨bytes, d.extension, d.filename moment⟩ = a := by
  rw [encode]
  cases d.encodedBytes pack t with
  | error e => simp [Except.map]
  | ok bytes => simp [Except.map]

end ReportServer.Report
