import ReportServer.Text.Blank

/-!
# File names

A report's name becomes part of a file name. ASCII letters, digits, hyphens and underscores are
kept; every maximal run of other characters becomes one underscore; underscores at the two ends
are dropped; and a name with nothing left is called `report`.
-/

namespace ReportServer.Name

/-- The characters a file name keeps. -/
def isFilenameChar (c : Char) : Bool := c.isAlphanum || c == '-' || c == '_'

/-- Keep file name characters, and write one underscore for each maximal run of others. -/
def squeeze : List Char → List Char
  | [] => []
  | c :: rest =>
    if isFilenameChar c then c :: squeeze rest
    else '_' :: squeeze (rest.dropWhile (!isFilenameChar ·))
termination_by s => s.length
decreasing_by
  · simp
  · have := (List.dropWhile_suffix (p := fun c => !isFilenameChar c) (l := rest)).length_le
    simp only [List.length_cons]; omega

/-- The name used where nothing usable is left. -/
def fallbackFilename : List Char := ['r', 'e', 'p', 'o', 'r', 't']

/-- A report's name as part of a file name, over characters. -/
def filenameChars (s : List Char) : List Char :=
  match Text.strip (· == '_') (squeeze s) with
  | [] => fallbackFilename
  | cleaned => cleaned

/-- A report's name as part of a file name. -/
def cleanFilename (name : String) : String := String.ofList (filenameChars name.toList)

end ReportServer.Name
