import ReportServer.Workbook.Basic

/-!
# Cell references

Columns are numbered in letters, `A` to `Z`, then `AA` and so on; rows in decimal from 1. The
dimension of a worksheet is the range from its first to its last stored row and column.
-/

namespace ReportServer.Workbook

/-- The letters of a column, after those already found to its right. -/
def columnLetters (j : Nat) (right : List Char) : List Char :=
  let here := Char.ofNat (65 + j % 26) :: right
  if j < 26 then here else columnLetters (j / 26 - 1) here
termination_by j
decreasing_by omega

/-- The reference of a position. -/
def reference (row column : Nat) : String :=
  String.ofList (columnLetters column [] ++ Nat.toDigits 10 (row + 1))

/-- The range of stored cells: `A1` if there are none, one reference if it is one cell. -/
def dimension (cells : List Stored) : String :=
  match cells with
  | [] => "A1"
  | c :: rest =>
    let (top, bottom) := rest.foldl (fun (a, b) s => (min a s.row, max b s.row)) (c.row, c.row)
    let (left, right) := rest.foldl (fun (a, b) s => (min a s.column, max b s.column)) (c.column, c.column)
    if top = bottom ∧ left = right then reference top left
    else reference top left ++ ":" ++ reference bottom right

/-- The number of rows that hold a stored cell; the cells come in row order. -/
def storedRows : List Stored → Nat
  | [] => 0
  | [_] => 1
  | a :: b :: rest => (if a.row = b.row then 0 else 1) + storedRows (b :: rest)

end ReportServer.Workbook
