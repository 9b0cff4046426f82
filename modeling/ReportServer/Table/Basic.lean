import ReportServer.Report.Error
import ReportServer.Table.Cell

/-!
# Tables

The result of a query: named, typed columns and rows of cells. A table is rectangular, and its
type says so; rows that do not fit are refused where the table is made, with the first of them.
-/

namespace ReportServer.Table

/-- What the cells of a column hold. -/
inductive Kind where
  | integer
  | float
  | boolean
  | text
  | timestamp
  | date
deriving DecidableEq, Repr

/-- The name of a kind. -/
def Kind.name : Kind → String
  | integer => "integer"
  | float => "float"
  | boolean => "boolean"
  | text => "text"
  | timestamp => "timestamp"
  | date => "date"

/-- The kind of a cell; a null has none. -/
def Cell.kind? : Cell → Option Kind
  | null => none
  | integer _ => some .integer
  | float _ => some .float
  | boolean _ => some .boolean
  | text _ => some .text
  | timestamp _ => some .timestamp
  | date _ => some .date

/-- A column of a query result. -/
structure Column where
  name : String
  kind : Kind
deriving DecidableEq, Repr

end Table

/-- The result of a query. Every row has one cell per column. -/
structure Table where
  columns : List Table.Column
  rows : List (List Table.Cell)
  rectangular : ∀ row ∈ rows, row.length = columns.length

namespace Table

deriving instance DecidableEq, Repr for ReportServer.Table

/-- The first row that does not have `width` cells, with its index. -/
def firstRagged (width : Nat) : Nat → List (List Cell) → Option (Nat × List Cell)
  | _, [] => none
  | i, row :: rest => if row.length = width then firstRagged width (i + 1) rest else some (i, row)

theorem length_eq_of_firstRagged_eq_none {width : Nat} {rows : List (List Cell)} :
    ∀ {i : Nat}, firstRagged width i rows = none → ∀ row ∈ rows, row.length = width := by
  induction rows with
  | nil => simp
  | cons row rest ih =>
    intro i h
    simp only [firstRagged] at h
    split at h
    · next hw =>
      intro r hr
      rcases List.mem_cons.mp hr with rfl | hr
      · exact hw
      · exact ih h r hr
    · simp at h

/-- Make a table, or report the first row that does not fit its columns. -/
def make (columns : List Column) (rows : List (List Cell)) : Except Report.ExportError Table :=
  match h : firstRagged columns.length 0 rows with
  | none => .ok ⟨columns, rows, length_eq_of_firstRagged_eq_none h⟩
  | some (i, row) => .error (.malformed i columns.length row.length)

/-- The table without columns and rows. -/
def empty : Table := ⟨[], [], by simp⟩

end Table

end ReportServer
