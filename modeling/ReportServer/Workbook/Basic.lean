import ReportServer.Workbook.StoredText
import ReportServer.Table.Basic

/-!
# Workbooks

A workbook with one worksheet: its name and the cells it stores, in row order. The header stands in
the first row, in bold; the rows of the table follow. Nulls and empty texts outside the header are
not stored, whole and finite numbers are numbers, and everything else is the text of the cell.

The table is first laid out as the cells it would store, without any limit; then the first cell
that a worksheet cannot hold, if there is one, decides the error.
-/

namespace ReportServer.Workbook

/-- What a stored cell holds. -/
inductive Content where
  | number (value : Decimal.Binary64)
  | boolean (value : Bool)
  /-- A text that is not empty, as it was given. -/
  | string (value : String)
  /-- Nothing but a format. -/
  | blank
deriving DecidableEq, Repr

/-- A stored cell: where it is, what it holds, and whether it is bold. Rows and columns count from 0. -/
structure Stored where
  row : Nat
  column : Nat
  content : Content
  bold : Bool
deriving DecidableEq, Repr

end Workbook

/-- A workbook with one worksheet. -/
structure Workbook where
  sheetName : String
  cells : List Workbook.Stored
  rowsWritten : UInt32
deriving DecidableEq, Repr

namespace Workbook

/-- The number of rows of a worksheet. -/
def maxRows : Nat := 1048576

/-- The number of columns of a worksheet. -/
def maxColumns : Nat := 16384

/-- The most characters a cell may hold. -/
def maxTextLength : Nat := 32767

/-- Row numbers are held in 32 bits. -/
def rowNumbers : Nat := UInt32.size

/-! ## Sheet names -/

/-- Why a name cannot be the name of a worksheet. -/
inductive SheetNameFault where
  | blank
  | tooLong
  | forbiddenCharacter
  | apostropheAtEdge
deriving DecidableEq, Repr

/-- What is wrong with a worksheet name, if anything. -/
def sheetNameFault (name : String) : Option SheetNameFault :=
  let s := name.toList
  if s.isEmpty then some .blank
  else if 31 < s.length then some .tooLong
  else if s.any fun c => c == '[' || c == ']' || c == ':' || c == '*' || c == '?' || c == '/' || c == '\\'
  then some .forbiddenCharacter
  else if s.head? = some '\'' ∨ s.getLast? = some '\'' then some .apostropheAtEdge
  else none

/-- The sentence that describes a refused worksheet name. -/
def SheetNameFault.message (name : String) (f : SheetNameFault) : String :=
  let given := "Worksheet name 'worksheet.set_name(\"" ++ name ++ "\")' "
  match f with
  | blank => given ++ "cannot be blank."
  | tooLong => given ++ "exceeds Excel's limit of 31 characters."
  | forbiddenCharacter => given ++ "cannot contain invalid characters: '[ ] : * ? / \\'."
  | apostropheAtEdge => given ++ "cannot start or end with an apostrophe."

/-! ## Layout -/

/-- The content of a header cell. -/
def headerContent (c : Table.Column) : Content := if c.name.isEmpty then .blank else .string c.name

/-- The content of a text outside the header. -/
def textContent (s : String) : Option Content := if s.isEmpty then none else some (.string s)

/-- The content of a cell of the table, if it is stored. -/
def cellContent (c : Table.Cell) : Option Content :=
  match c with
  | .null => none
  | .integer i => some (.number (.ofInt i.toInt))
  | .float x => if x.isFinite then some (.number x) else textContent c.toText
  | .boolean b => some (.boolean b)
  | _ => textContent c.toText

/-- The header from column `j` on. -/
def headerFrom (j : Nat) : List Table.Column → List Stored
  | [] => []
  | c :: rest => ⟨0, j, headerContent c, true⟩ :: headerFrom (j + 1) rest

/-- The stored cells of a row from column `j` on. -/
def rowFrom (i j : Nat) : List Table.Cell → List Stored
  | [] => []
  | c :: rest =>
    match cellContent c with
    | some content => ⟨i, j, content, false⟩ :: rowFrom i (j + 1) rest
    | none => rowFrom i (j + 1) rest

/-- The stored cells of the rows from row `i` on. -/
def rowsFrom (i : Nat) : List (List Table.Cell) → List Stored
  | [] => []
  | row :: rest => rowFrom i 0 row ++ rowsFrom (i + 1) rest

/-- The cells a table stores. -/
def layout (t : Table) : List Stored := headerFrom 0 t.columns ++ rowsFrom 1 t.rows

/-! ## Limits -/

/-- Why a worksheet cannot hold a table. -/
inductive LimitFault where
  | position
  | textLength
  | rowNumber
deriving DecidableEq, Repr

/-- The sentence that describes a limit. -/
def LimitFault.message : LimitFault → String
  | position => "Row or column exceeds Excel's allowed limits (1,048,576 x 16,384)."
  | textLength => "String exceeds Excel's limit of 32,767 characters."
  | rowNumber => "row " ++ toString rowNumbers ++ " exceeds worksheet limits"

/-- Whether a content is a text with too many characters. -/
def Content.isTooLong : Content → Bool
  | string s => maxTextLength < s.length
  | _ => false

/-- What keeps a worksheet from holding a cell. -/
def Stored.fault (s : Stored) : Option LimitFault :=
  if rowNumbers ≤ s.row then some .rowNumber
  else if maxRows ≤ s.row ∨ maxColumns ≤ s.column then some .position
  else if s.content.isTooLong then some .textLength
  else none

/-- What keeps a worksheet from holding a table. -/
def limitFault (t : Table) : Option LimitFault :=
  match (layout t).findSome? Stored.fault with
  | some f => some f
  | none => if rowNumbers ≤ t.rows.length then some .rowNumber else none

/-- Put a table on a worksheet of a given name. -/
def ofTable (t : Table) (sheetName : String) : Except Report.ExportError Workbook :=
  match sheetNameFault sheetName with
  | some f => .error (.encoding (f.message sheetName))
  | none =>
    match limitFault t with
    | some f => .error (.encoding f.message)
    | none => .ok ⟨sheetName, layout t, UInt32.ofNat (t.rows.length + 1)⟩

/-- The text a stored content has in the file, if it is a text. -/
def Content.stored? : Content → Option StoredText
  | string s => some (.ofChars s.toList)
  | _ => none

end Workbook

end ReportServer
