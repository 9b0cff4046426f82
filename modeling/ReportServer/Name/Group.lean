import ReportServer.Name.Fault

/-!
# Group names and report ids

The two values a caller may send to the report routes are checked before anything is looked up.

A group name is a letter or digit followed by letters, digits, spaces, dots, underscores and
hyphens, all ASCII, and at most 100 bytes long. Length is looked at first, so a long name is
called long whatever it holds. A report id is positive.
-/

namespace ReportServer.Name

/-- What can be wrong with a group name. -/
inductive GroupNameError where
  | tooLong
  | malformed
deriving DecidableEq, Repr

/-- The most bytes a group name may have. -/
def maxGroupNameLength : Nat := 100

/-- ASCII letters and digits. -/
def isWordChar (c : Char) : Bool := c.isAlphanum

/-- What may follow the first character of a group name. -/
def isGroupNameChar (c : Char) : Bool := isWordChar c || c == ' ' || c == '_' || c == '.' || c == '-'

/-- The shape of a group name, its length aside. -/
def hasGroupNameShape : List Char → Bool
  | [] => false
  | c :: rest => isWordChar c && rest.all isGroupNameChar

/-- Check a group name: its length first, then its shape. -/
def checkGroupName (name : String) : Except GroupNameError Unit :=
  if name.utf8ByteSize > maxGroupNameLength then .error .tooLong
  else if hasGroupNameShape name.toList then .ok ()
  else .error .malformed

/-- The fault reported for a refused group name. -/
def GroupNameError.fault : GroupNameError → Fault
  | .tooLong => ⟨"group_name_length", some "Group name must be at most 100 characters"⟩
  | .malformed =>
    ⟨"group_name_format",
      some "Group name must start with a letter or digit and contain only letters, digits, spaces, '.', '_' or '-'"⟩

/-- A report id is positive. -/
def isReportId (id : Int64) : Bool := 0 < id

/-- The fault reported for a report id that is not positive. -/
def reportIdFault : Fault := ⟨"report_id_range", some "Report id must be a positive integer"⟩

/-- Check a report id. -/
def checkReportId (id : Int64) : Except Fault Unit :=
  if isReportId id then .ok () else .error reportIdFault

end ReportServer.Name
