import ReportServer.Settings.Basic
import ReportServer.Trail.Filter

/-!
# The logger

A process has at most one logger, which is installed once and stays. It writes what its filter
allows, in JSON or in a form for people.
-/

namespace ReportServer.Trail

/-- The form in which events are written. -/
inductive LogForm where
  | json
  | pretty
deriving DecidableEq, Repr

/-- The form of a name: whatever is not JSON is for people. -/
def LogForm.ofName (name : String) : LogForm := if name = "json" then json else pretty

/-- A logger. -/
structure Logger where
  filter : Filter
  form : LogForm
deriving DecidableEq, Repr

namespace Logger

/-- The logger that is set. -/
def ofSettings (s : Settings.Logging) : Logger := ⟨Filter.parse s.level, .ofName s.format⟩

/-- Why a logger could not be installed: there is one already. -/
inductive InstallError where
  | alreadyInstalled
deriving DecidableEq, Repr

/-- The sentence that describes the error. -/
def InstallError.message : InstallError → String
  | alreadyInstalled => "a global default trace dispatcher has already been set"

/-- Install the logger that is set, if there is none. -/
def install (s : Settings.Logging) : Option Logger → Except InstallError Logger
  | none => .ok (ofSettings s)
  | some _ => .error .alreadyInstalled

end Logger

end ReportServer.Trail
