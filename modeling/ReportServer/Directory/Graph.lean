import ReportServer.Directory.User
import ReportServer.Http.Header
import ReportServer.Http.Status
import ReportServer.Json.Outline
import ReportServer.Net.Url
import ReportServer.Settings.Basic
import ReportServer.Text.Blank
import ReportServer.Trail.Traced

/-!
# The remote directory

A bearer token is turned into a user by asking the remote directory who its holder is. What the
remote end does with a request is a parameter: it answers, it takes too long, or it cannot be
reached. Nothing but a well-formed answer with a success status gives a user; a status that says
that the token is not good means that nobody holds it, and everything else is a failure of the
directory.
-/

namespace ReportServer.Directory

/-- The request for the holder of a token. -/
structure MeRequest where
  url : Net.Url
  token : String
deriving DecidableEq, Repr

/-- What becomes of a request. -/
inductive MeReply where
  | answered (status : Nat) (body : List UInt8)
  /-- The body of the answer does not arrive as a whole. -/
  | cutOff (status : Nat)
  | timedOut
  | unreachable
deriving DecidableEq, Repr

/-- The remote directory: where it is, how long it may take, and what it does with a request. -/
structure Graph where
  meUrl : String
  timeoutMs : UInt64
  remote : MeRequest → MeReply

namespace Graph

/-- The address of the holder of a token below a base. -/
def meUrlOf (base : String) : String := Text.dropTrailingSlashes base ++ "/me"

/-- The remote directory as it is set. -/
def ofSettings (s : Settings.Users) (remote : MeRequest → MeReply) : Graph :=
  ⟨meUrlOf s.graphBaseUrl, s.timeoutMs, remote⟩

/-- A user as the remote directory describes one. -/
structure Profile where
  id : String
  displayName : Option String
  mail : Option String
  principalName : Option String
deriving DecidableEq, Repr

/-- The value of a member, if there is one; a member that is sent twice is refused. -/
def sent (members : List (String × Json.Outline)) (name : String) : Option (Option Json.Outline) :=
  match members.filter (·.1 == name) with
  | [] => some none
  | [(_, v)] => some (some v)
  | _ => none

/-- A text or null. -/
def textOrNull : Json.Outline → Option (Option String)
  | .null => some none
  | v => v.said?.map some

/-- A text that may be null or left out. -/
def optionalField (members : List (String × Json.Outline)) (name : String) : Option (Option String) := do
  match ← sent members name with
  | none => return none
  | some v => textOrNull v

/--
Read a profile: an object, whose other members are not looked at but for their names, or an array of its fields in
order of which all but the first may be missing.
-/
def Profile.ofOutline? : Json.Outline → Option Profile
  | .obj members => do
    let named ← members.mapM fun m => (Json.said? m.1).map (·, m.2)
    let id ← (← (← sent named "id")).said?
    let displayName ← optionalField named "displayName"
    let mail ← optionalField named "mail"
    let principalName ← optionalField named "userPrincipalName"
    return ⟨id, displayName, mail, principalName⟩
  | .arr (first :: rest) => do
    let id ← first.said?
    if 3 < rest.length then none
    let fields ← rest.mapM textOrNull
    return ⟨id, (fields[0]?).join, (fields[1]?).join, (fields[2]?).join⟩
  | _ => none

/-- The profile in the body of an answer. -/
def Profile.ofBody? (body : List UInt8) : Option Profile :=
  (Json.outline? (Text.ofBytes body)).bind Profile.ofOutline?

/-- A text that is there and not empty. -/
def nonEmpty (o : Option String) : Option String := o.filter (!·.isEmpty)

/-- The user of a profile: without a name of its own it is shown under its principal name. -/
def Profile.user (p : Profile) : User :=
  let principal := p.principalName.getD ""
  ⟨p.id, (nonEmpty p.displayName).getD principal, nonEmpty p.mail, principal⟩

/-- A status that says that the token is not good. -/
def refusesToken (status : Nat) : Bool := status == 401 || status == 403 || status == 404

/-- What an answer of the remote directory means; the profile in it is looked at only if the status is a success. -/
def ofAnswer (status : Nat) (profile : Option Profile) : Except LookupError User :=
  if Http.isSuccess status then
    match profile with
    | some p => .ok p.user
    | none => .error (.unavailable "Invalid Graph response: error decoding response body")
  else if refusesToken status then .error .userNotFound
  else .error (.unavailable ("Graph returned HTTP " ++ Http.statusText status))

/-- The schemes requests can be sent to. -/
def isSendable (url : Net.Url) : Bool := url.scheme == "http" || url.scheme == "https"

/-- The request for the holder of a token, or why there is none. -/
def request (g : Graph) (token : String) : Except LookupError MeRequest :=
  let refused : Except LookupError MeRequest := .error (.unavailable "builder error")
  match Net.Url.parse g.meUrl with
  | .error _ => refused
  | .ok url =>
    let shown := url.withoutUser.text
    let wrongScheme : Except LookupError MeRequest :=
      .error (.unavailable ("builder error for url (" ++ shown ++ ")"))
    if url.host.isNone then wrongScheme
    else if !Http.isHeaderValue token then refused
    else if !isSendable url then wrongScheme
    else .ok ⟨url, token⟩

/-- What a reply means. -/
def ofReply (g : Graph) (r : MeRequest) : MeReply → Except LookupError User
  | .answered status body => ofAnswer status (Profile.ofBody? body)
  | .cutOff status => ofAnswer status none
  | .timedOut => .error (.unavailable ("Graph request timed out after " ++ toString g.timeoutMs.toNat ++ "ms"))
  | .unreachable =>
    .error (.unavailable ("error sending request for url (" ++ r.url.withoutUser.text ++ ")"))

/-- Where the events of the remote directory come from. -/
def logTarget : String := "report_service_api::services::graph"

/-- The holder of a token. A blank token is not asked about. -/
def lookUp (g : Graph) (token : String) : Trail.Traced (Except LookupError User) := do
  if (Text.trim token).isEmpty then return .error .userNotFound
  Trail.Traced.log .debug logTarget "Calling Graph /me" [("url", .str g.meUrl)]
  match g.request token with
  | .error e => return .error e
  | .ok r => return g.ofReply r (g.remote r)

end Graph

end ReportServer.Directory
