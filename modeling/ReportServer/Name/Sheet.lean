import ReportServer.Text.Blank

/-!
# Sheet names

A report's name becomes the name of its worksheet. The seven characters a worksheet name must not
hold become underscores, blanks and apostrophes at the ends are dropped, the name is cut to 31
characters, and the ends are cleaned once more, because the cut may have uncovered a blank or an
apostrophe. A name of blanks and apostrophes alone gives none.
-/

namespace ReportServer.Name

/-- The most characters a worksheet name may have. -/
def maxSheetNameLength : Nat := 31

/-- The characters a worksheet name must not hold. -/
def isSheetForbidden (c : Char) : Bool :=
  c == '[' || c == ']' || c == ':' || c == '*' || c == '?' || c == '/' || c == '\\'

/-- The characters dropped from the ends of a worksheet name. -/
def isSheetEdge (c : Char) : Bool := Text.isBlank c || c == '\''

/-- A character as a worksheet name shows it. -/
def sheetChar (c : Char) : Char := if isSheetForbidden c then '_' else c

/-- A report's name as a worksheet name, over characters; empty if nothing is left. -/
def sheetChars (s : List Char) : List Char :=
  Text.strip isSheetEdge ((Text.strip isSheetEdge (s.map sheetChar)).take maxSheetNameLength)

/-- A report's name as a worksheet name, if anything of it is left. -/
def cleanSheetName (name : String) : Option String :=
  match sheetChars name.toList with
  | [] => none
  | cleaned => some (String.ofList cleaned)

end ReportServer.Name
