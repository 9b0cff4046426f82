/-!
# Faults of a checked value

What a check of a caller's value found wrong: a code for programs and, mostly, a sentence for
people. Where there is no sentence the code stands in for it.
-/

namespace ReportServer.Name

/-- What a check found wrong with one value. -/
structure Fault where
  /-- A code for programs. -/
  code : String
  /-- A sentence for people. -/
  message : Option String
deriving DecidableEq, Repr

/-- The text shown for a fault: its sentence, or its code if it has none. -/
def Fault.text (f : Fault) : String := f.message.getD f.code

end ReportServer.Name
