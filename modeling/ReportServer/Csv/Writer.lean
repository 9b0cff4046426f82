import ReportServer.Table.Basic

/-!
# Writing CSV

A table is written as one line for the column names and one line per row. A line is its fields
with commas between them and a line feed at the end. A field that holds a comma, a quote or a line
break stands in quotes, with its own quotes doubled.
-/

namespace ReportServer.Csv

/-- The characters that force quotes around a field. -/
def isSpecial (c : Char) : Bool := c == ',' || c == '"' || c == '\n' || c == '\r'

/-- Write every quote twice. -/
def doubleQuotes : List Char → List Char
  | [] => []
  | c :: rest => if c = '"' then '"' :: '"' :: doubleQuotes rest else c :: doubleQuotes rest

/-- A field as a line holds it. -/
def field (s : List Char) : List Char :=
  if s.any isSpecial then '"' :: (doubleQuotes s ++ ['"']) else s

/-- A text as a line holds it. -/
def escape (s : String) : String := String.ofList (field s.toList)

/-- Fields with commas between them. -/
def joined : List (List Char) → List Char
  | [] => []
  | [f] => field f
  | f :: rest => field f ++ ',' :: joined rest

/-- A line of fields, ended by a line feed. -/
def line (fields : List (List Char)) : List Char := joined fields ++ ['\n']

/-- The records of a table: its column names and then the texts of its rows. -/
def records (t : Table) : List (List (List Char)) :=
  (t.columns.map (·.name.toList)) :: t.rows.map (·.map (·.toText.toList))

/-- A table as CSV, over characters. -/
def chars (t : Table) : List Char := (records t).flatMap line

/-- A table as CSV. -/
def write (t : Table) : String := String.ofList (chars t)

end ReportServer.Csv
