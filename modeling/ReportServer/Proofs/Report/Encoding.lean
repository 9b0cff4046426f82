import ReportServer.Proofs.Calendar
import ReportServer.Proofs.Name.Sheet
import ReportServer.Proofs.Workbook.Limits
import ReportServer.Report.Artifact

/-!
# Every report can be encoded

Nothing that a report is called, and no number of a worksheet, can keep a table from being encoded. A CSV has
no limits at all. A workbook has those of a worksheet, and a table is within them if it is small enough and its
texts are short enough: what numbers, dates and moments show is always short.
-/

namespace ReportServer

open Workbook (maxRows maxColumns maxTextLength)

/-! ## What cells show is short -/

/-- What stands for an infinity or for no number is at most a sign and three letters. -/
theorem Decimal.Binary64.length_text_le {x : Decimal.Binary64} (h : x.isFinite = false) :
    x.text.length ≤ 4 := by
  unfold Decimal.Binary64.text
  split
  · decide
  · have hinf : ∀ negative : Bool, (String.ofList
        (if negative then '-' :: ['i', 'n', 'f'] else ['i', 'n', 'f'])).length ≤ 4 := by decide
    simp only [h]
    exact hinf x.isNegative

/-- A cell whose text is short enough for a worksheet, or whose date or moment is one the server can hold. -/
def Table.Cell.Within : Table.Cell → Prop
  | .text s => s.length ≤ maxTextLength
  | .timestamp m => m.Held
  | .date d => d.Held
  | _ => True

/-- A table within the limits of a worksheet, whatever its cells show. -/
structure Table.Within (t : Table) : Prop where
  columns : t.columns.length ≤ maxColumns
  /-- The first row of the worksheet is the header's. -/
  rows : t.rows.length < maxRows
  names : ∀ c ∈ t.columns, c.name.length ≤ maxTextLength
  cells : ∀ row ∈ t.rows, ∀ c ∈ row, c.Within

/-- Whatever is shown for such a cell is short. -/
theorem Table.Cell.Within.length_le {c : Table.Cell} {s : String} (h : c.Within)
    (hshows : Workbook.Shows c (.string s)) : s.length ≤ maxTextLength := by
  cases hshows with
  | text _ => exact h
  | notFinite hx => exact Nat.le_trans (Decimal.Binary64.length_text_le hx) (by decide)
  | timestamp m =>
      rw [Table.Cell.toText, String.length_ofList]
      exact Nat.le_trans (Moment.Held.length_chars_le h) (by decide)
  | date d =>
      rw [Table.Cell.toText, String.length_ofList]
      exact Nat.le_trans (Date.Held.length_chars_le h) (by decide)

theorem Table.Within.fits {t : Table} (h : t.Within) : Workbook.Fits t where
  columns := h.columns
  names := h.names
  texts := fun row hrow c hc _ hshows => (h.cells row hrow c hc).length_le hshows
  rows := by
    intro i row hi _
    obtain ⟨hlt, -⟩ := List.getElem?_eq_some_iff.mp hi
    have := h.rows
    omega
  numbers := Nat.lt_trans h.rows (by decide)

namespace Report.Definition

/-! ## At the top -/

/--
**No report name can make an export fail.** The worksheet of a report can have the name that is made for it.
A report that is exported as CSV is encoded whatever its table is, and one that is exported as a workbook is
encoded if its table is within limits: on one worksheet of that name, with a row for the header and one for
each row of the table.
-/
theorem encoded_whatever_name (pack : Workbook → List UInt8) (d : Definition) (t : Table) (moment : Moment) :
    Workbook.IsSheetName d.sheetName.toList ∧ Workbook.sheetNameFault d.sheetName = none
      ∧ (d.extension = .csv →
          d.encode pack t moment = .ok ⟨Text.utf8 (Csv.write t), .csv, d.filename moment⟩)
      ∧ (d.extension = .xlsx → t.Within → ∃ w : Workbook, d.workbook t = .ok w
          ∧ w.sheetName = d.sheetName ∧ w.rowsWritten.toNat = t.rows.length + 1
          ∧ d.encode pack t moment = .ok ⟨pack w, .xlsx, d.filename moment⟩) := by
  have hname : Workbook.sheetNameFault d.sheetName = none :=
    Workbook.sheetNameFault_eq_none_iff.mpr d.isSheetName_sheetName
  refine ⟨d.isSheetName_sheetName, hname, fun hext => ?_, fun hext hwithin => ?_⟩
  · simp only [encode, encodedBytes, hext]
    rfl
  · have hrows : t.rows.length + 1 < Workbook.rowNumbers := Nat.lt_of_le_of_lt hwithin.rows (by decide)
    obtain ⟨w, hw, hsheet, hcount⟩ := Workbook.exists_ofTable hname hwithin.fits hrows
    refine ⟨w, hw, hsheet, hcount, ?_⟩
    simp only [encode, encodedBytes, hext, workbook, hw]
    rfl

/-- A name of which the cut leaves an apostrophe at the end. -/
def sampleDefinition : Definition :=
  ⟨7, "aaaaaaaaaaaaaaaaaaaaaaaaaaaaaa's monthly numbers", "SELECT 1", .xlsx, -2, none, ⟨⟨2024, 2, 3⟩, 0, 0, 0, 0⟩⟩

theorem encoded_whatever_name_cut : ∃ w : Workbook, sampleDefinition.workbook Workbook.sampleTable = .ok w
    ∧ w.sheetName = "aaaaaaaaaaaaaaaaaaaaaaaaaaaaaa" ∧ w.rowsWritten.toNat = 3 := by
  have hwithin : Workbook.sampleTable.Within := by
    refine ⟨by decide, by decide, by decide, ?_⟩
    simp only [Workbook.sampleTable, List.forall_mem_cons, Table.Cell.Within, List.not_mem_nil,
      false_imp_iff, implies_true, and_true, true_and]
    decide
  obtain ⟨-, -, -, hxlsx⟩ :=
    encoded_whatever_name (fun _ => []) sampleDefinition Workbook.sampleTable ⟨⟨2024, 2, 3⟩, 4, 5, 6, 0⟩
  obtain ⟨w, hw, hname, hrows, -⟩ := hxlsx rfl hwithin
  exact ⟨w, hw, hname.trans (by decide +kernel), hrows⟩

end Report.Definition

end ReportServer
