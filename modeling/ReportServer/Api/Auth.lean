import ReportServer.Api.Error
import ReportServer.Http.Header
import ReportServer.Text.Blank
import ReportServer.Trail.Traced

/-!
# Who is calling

A caller is known by a bearer token in the first authorization header. The header must be plain
text, its first word must be `bearer` in any case, and what follows, trimmed, must not be empty;
the directory then says who holds the token. A caller who is known already is not asked again.
-/

namespace ReportServer.Api

open Trail (Traced)

/-- A way to find the holder of a token. -/
abbrev LookUp := String → Traced (Except Directory.LookupError Directory.User)

/-- Lower case of ASCII letters only. -/
def asciiLower (s : List Char) : List Char := s.map Char.toLower

/-- The token of an authorization header. -/
def tokenOf (value : String) : Option String :=
  let s := value.toList
  let scheme := s.takeWhile (· != ' ')
  if !Http.isPlainValue value ∨ scheme.length = s.length then none
  else
    let token := Text.strip Text.isBlank (s.drop (scheme.length + 1))
    if asciiLower scheme = "bearer".toList ∧ !token.isEmpty then some (String.ofList token) else none

/-- The bearer token of a request. -/
def bearerToken (h : Http.Headers) : Option String := (h.first? "authorization").bind tokenOf

/-- Where the events about callers come from. -/
def authTarget : String := "report_service_api::middleware::user_auth"

/-- Where the events about errors come from. -/
def errorTarget : String := "report_service_api::error"

/-- A failed look-up as an error of the service. The detail of a failure of the directory is logged. -/
def rejectLookup (e : Directory.LookupError) : Traced ApiError := do
  match e with
  | .userNotFound => return .ofLookup e
  | .unavailable detail =>
    Traced.log .warn errorTarget "User directory lookup failed" [("error", .str detail)]
    return .ofLookup e

/-- The holder of a token, or the error of the service. -/
def holderOf (lookUp : LookUp) (token : String) : Traced (Except ApiError Directory.User) := do
  Traced.call (.lookUp token)
  match ← lookUp token with
  | .ok user => return .ok user
  | .error e => return .error (← rejectLookup e)

/-- The caller of a request that needs one. -/
def requireUser (lookUp : LookUp) (h : Http.Headers) : Traced (Except ApiError Directory.User) := do
  match bearerToken h with
  | none => return .error .missingToken
  | some token =>
    match ← holderOf lookUp token with
    | .error e => return .error e
    | .ok user =>
      Traced.log .debug authTarget "Authenticated request" [("user", .str user.identity)]
      return .ok user

/-- The caller of a request: the one who is known already, or the holder of its token. -/
def currentUser (lookUp : LookUp) (known : Option Directory.User) (h : Http.Headers) :
    Traced (Except ApiError Directory.User) := do
  match known, bearerToken h with
  | some user, _ => return .ok user
  | none, none => return .error .missingToken
  | none, some token => holderOf lookUp token

end ReportServer.Api
