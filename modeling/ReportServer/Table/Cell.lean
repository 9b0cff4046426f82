import ReportServer.Calendar
import ReportServer.Decimal.Shortest

/-!
# Cells

One value of a query result. Every cell has a text, which is what a CSV file shows for it; a null
has the empty text.
-/

namespace ReportServer.Table

/-- One value of a query result. -/
inductive Cell where
  | null
  | integer (value : Int64)
  | float (value : Decimal.Binary64)
  | boolean (value : Bool)
  | text (value : String)
  | timestamp (value : Moment)
  | date (value : Date)
deriving DecidableEq, Repr

/-- The text of a cell. -/
def Cell.toText : Cell → String
  | null => ""
  | integer i => toString i.toInt
  | float x => x.text
  | boolean b => if b then "true" else "false"
  | text s => s
  | timestamp m => String.ofList m.chars
  | date d => String.ofList d.chars

end ReportServer.Table
