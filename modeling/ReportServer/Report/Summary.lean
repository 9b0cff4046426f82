import ReportServer.Json.Decode
import ReportServer.Report.Definition

/-!
# Summaries and listings

What a caller sees of a definition: its id, name, format and download address, and nothing of its
query. A listing holds the summaries and says how many there are.
-/

namespace ReportServer.Report

/-- How JSON input spells a format: its name, or an object with that one name and null. -/
def Extension.decode : Json.Decoder Extension := fun v => do
  let variant (name : String) : Except DecodeError Extension :=
    if name = Extension.csv.name then .ok .csv
    else if name = Extension.xlsx.name then .ok .xlsx
    else .error (.unknownVariant name "`csv` or `xlsx`")
  match v with
  | .str s => variant s
  | .obj members =>
    match Json.canonicalMembers members with
    | [(name, content)] =>
      let extension ← variant name
      match content with
      | .null => return extension
      | _ => throw (.invalidType content.describe "unit")
    | _ => throw (.invalidValue v.describe "map with a single key")
  | _ => throw (.invalidType v.describe "string or map")

/-- What a caller sees of a report. -/
structure Summary where
  id : Int64
  name : String
  extension : Extension
  downloadUrl : String
deriving DecidableEq, Repr

namespace Summary

/-- The summary of a definition. -/
def ofDefinition (d : Definition) : Summary := ⟨d.id, d.name, d.extension, d.downloadUrl⟩

/-- A summary as JSON. -/
def toJson (s : Summary) : Json.Value :=
  .obj [("id", .int s.id.toInt), ("name", .str s.name), ("fileExtension", .str s.extension.name),
    ("downloadUrl", .str s.downloadUrl)]

/-- Read a summary. -/
def decode : Json.Decoder Summary := fun v => do
  let f ← Json.Decoder.fields "ReportSummary" ["id", "name", "fileExtension", "downloadUrl"] v
  f.check [("id", Fields.test Json.Decoder.int64), ("name", Fields.test Json.Decoder.string),
    ("fileExtension", Fields.test Extension.decode), ("downloadUrl", Fields.test Json.Decoder.string)]
  let id ← f.required "id" Json.Decoder.int64
  let name ← f.required "name" Json.Decoder.string
  let extension ← f.required "fileExtension" Extension.decode
  let url ← f.required "downloadUrl" Json.Decoder.string
  f.finish
  return ⟨id, name, extension, url⟩

end Summary

/-- The answer to a listing request. -/
structure Listing where
  data : List Summary
deriving DecidableEq, Repr

namespace Listing

/-- The listing of definitions, in their order. -/
def ofDefinitions (ds : List Definition) : Listing := ⟨ds.map Summary.ofDefinition⟩

/-- How many reports are listed. -/
def total (l : Listing) : Nat := l.data.length

/-- A listing as JSON. -/
def toJson (l : Listing) : Json.Value :=
  .obj [("data", .arr (l.data.map Summary.toJson)), ("total", .int l.total)]

end Listing

/-- What a caller asks of a listing: one group, or all reports. -/
structure ListQuery where
  group : Option String
deriving DecidableEq, Repr

namespace ListQuery

/-- Read a listing query. -/
def decode : Json.Decoder ListQuery := fun v => do
  let f ← Json.Decoder.fields "ListReportsQuery" ["group"] v
  f.check [("group", Fields.test Json.Decoder.string.nullable)]
  let group ← f.optional "group" Json.Decoder.string.nullable
  f.finish
  return ⟨group⟩

/-- A listing query as JSON. -/
def toJson (q : ListQuery) : Json.Value :=
  .obj [("group", match q.group with | some g => .str g | none => .null)]

end ListQuery

end ReportServer.Report
