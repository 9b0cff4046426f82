import ReportServer.Directory.Graph
import ReportServer.Settings.Check

/-!
# The directory in use

Which directory knows the users is a setting: the remote one, or a stub that takes every token that
is not blank for one user.
-/

namespace ReportServer.Directory

/-- A directory. -/
inductive Source where
  | graph (g : Graph)
  | stub (user : User)

/-- The user of the stub directory. -/
def stubUser (s : Settings.Users) : User :=
  ⟨s.stubUserId, s.stubDisplayName, s.stubEmail, s.stubPrincipalName⟩

/-- Where the event about using the stub comes from. -/
def appTarget : String := "report_service_api::app"

/-- Where the events of the stub come from. -/
def stubTarget : String := "domain::services::directory"

/-- The directory that is set. -/
def Source.ofSettings (s : Settings.Users) (remote : MeRequest → MeReply) :
    Trail.Traced (Except LookupError Source) := do
  if s.provider = Settings.graphProvider then return .ok (.graph (.ofSettings s remote))
  else if s.provider = Settings.stubProvider then
    Trail.Traced.log .warn appTarget
      "Using stub user directory; every bearer token resolves to one user" []
    return .ok (.stub (stubUser s))
  else return .error (.unavailable ("Unknown directory provider '" ++ s.provider ++ "'"))

/-- The stub's user, for every token that is not blank. -/
def lookUpStub (user : User) (token : String) : Trail.Traced (Except LookupError User) := do
  if (Text.trim token).isEmpty then return .error .userNotFound
  Trail.Traced.log .debug stubTarget "Resolved user from stub directory"
    [("user", .str user.identity)]
  return .ok user

/-- The holder of a token. -/
def Source.lookUp (s : Source) (token : String) : Trail.Traced (Except LookupError User) :=
  match s with
  | graph g => g.lookUp token
  | stub user => lookUpStub user token

end ReportServer.Directory
