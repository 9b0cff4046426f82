import ReportServer.Api.Handlers
import ReportServer.Http.Compression
import ReportServer.Http.Cors

/-!
# The server

A request passes through layers on its way to a handler, and its answer passes through them on its
way back. From the outside: routing, which adds what a path allows; other sites; the id of the
request; counting; the time limit; compression; the headers that every answer carries; and the
choice of a handler, with the caller checked first where a route needs one.

A request that only asks what it may do is answered at the second layer and goes no further.
-/

namespace ReportServer.Api

open Trail (Traced)
open Http (Request Response Route)

/-- A server. -/
structure App where
  service : Export.Service
  lookUp : LookUp
  provider : String
  hsts : Bool
  cors : Http.CorsPolicy

/-- The server of some settings; none if the list of origins holds the wildcard. -/
def App.ofSettings (s : Settings) (service : Export.Service) (lookUp : LookUp) : Option App :=
  (Http.CorsPolicy.ofList s.security.corsOrigins).map fun cors =>
    ⟨service, lookUp, s.directory.provider, s.security.hstsEnabled, cors⟩

/-- A request with its answer to come. -/
abbrev Handler := Request → Traced Response

namespace App

/-! ## Choosing a handler -/

/-- The handler of a route that needs a caller, or the refusal. -/
def protectedHandler (a : App) (s : Surroundings) (user : Directory.User) (route : Route) : Handler :=
  fun r =>
    match route with
    | .reports => listReports a.service user r
    | .report segment => exportReport a.service user s.moment segment
    | _ => return .bare 404

/-- The handler of a route that needs none. -/
def publicHandler (a : App) (s : Surroundings) (route : Route) : Handler := fun _ =>
  match route with
  | .health => return health a.provider s.database
  | .ready => return ready s.database
  | .live => return live
  | .metrics => showMeasures s.measured
  | _ => return .bare 404

/-- A handler for requests that read; other methods are not allowed. -/
def readsOnly (h : Handler) : Handler := fun r =>
  if r.isRead then h r else return .bare 405

/-- The handler behind all layers. -/
def dispatch (a : App) (s : Surroundings) : Handler := fun r => do
  match Route.ofPath r.path with
  | none => return .bare 404
  | some route =>
    if route.isProtected then
      match ← requireUser a.lookUp r.headers with
      | .error e => reject e
      | .ok user => readsOnly (a.protectedHandler s user route) r
    else readsOnly (a.publicHandler s route) r

/-! ## Layers -/

/-- The headers every answer carries, whatever it says. -/
def securityHeaders (hsts : Bool) (r : Response) : Response :=
  r.mapHeaders fun h =>
    let h := ((h.set "x-content-type-options" "nosniff").set "x-frame-options" "DENY").set
      "x-xss-protection" "1; mode=block"
    let h := if h.contains "content-disposition" then h.set "cache-control" "no-store" else h
    if hsts then h.set "strict-transport-security" "max-age=31536000; includeSubDomains" else h

/-- Secure every answer. -/
def secured (hsts : Bool) (inner : Handler) : Handler := fun r => do
  return securityHeaders hsts (← inner r)

/-- Compress what is worth it. -/
def compressing (inner : Handler) : Handler := fun r => do
  return Http.compressed r.headers (← inner r)

/-- Give up on a request that takes too long. What was done for it until then is done. -/
def limited (limit : Limit) (inner : Handler) : Handler := fun r =>
  match limit with
  | .kept => inner r
  | .passed done => ⟨.bare 408, (inner r).trail.take done⟩

/-- The methods that are counted under their own name. -/
def countedMethods : List String := ["GET", "POST", "PUT", "DELETE", "PATCH", "HEAD", "OPTIONS"]

/-- The label a method is counted under. -/
def methodLabel (method : String) : String := if method ∈ countedMethods then method else "OTHER"

/-- The label a path is counted under: its route's pattern, or itself. -/
def pathLabel (path : String) : String := ((Route.ofPath path).map Route.pattern).getD path

/-- Count requests. -/
def counted (inner : Handler) : Handler := fun r => do
  let response ← inner r
  Traced.measure (.request (methodLabel r.method) (pathLabel r.path) response.status)
  Traced.measure (.requestDuration (methodLabel r.method) (pathLabel r.path))
  return response

/-- The id a request brings, if it is usable. -/
def broughtId (h : Http.Headers) : Option String :=
  (h.first? "x-request-id").filter fun v => Http.isPlainValue v && !v.isEmpty

/-- Where the events about requests come from. -/
def requestTarget : String := "report_service_api::middleware::trace_id"

/-- The id of a request. -/
def idOf (freshId : String) (r : Request) : String := (broughtId r.headers).getD freshId

/-- What the log calls the time from a request to its answer. -/
def requestSpan (freshId : String) (r : Request) : Trail.Span :=
  ⟨.info, "request", requestTarget,
    [("request_id", idOf freshId r), ("method", r.method), ("path", r.path)]⟩

/-- What the log calls the time that the layers further inside have a request, until its body is gone. -/
def handlingSpan (r : Request) : Trail.Span :=
  ⟨.debug, "request", "tower_http::trace::make_span",
    [("method", r.method), ("uri", r.target), ("version", "HTTP/1.1")]⟩

/-- Name the request in its answer and in the log. -/
def identified (freshId : String) (inner : Handler) : Handler := fun r =>
  Traced.within (requestSpan freshId r) do
    let response ← (inner r).within (handlingSpan r)
    Traced.note <| .event
      ⟨.info, requestTarget, "Request completed", [("status", .int response.status)], ["duration_ms"], []⟩
    return response.mapHeaders (·.set "x-request-id" (idOf freshId r))

/-- Tell other sites whether they may call. -/
def shared (policy : Http.CorsPolicy) (inner : Handler) : Handler := fun r => do
  if r.isOptions then return policy.preflight r.headers
  return (← inner r).mapHeaders (· ++ policy.headers r.headers)

/-- What a known path allows. -/
def allowedMethods : String := "GET,HEAD"

/-- Say what a known path allows to requests that do not read, and send no body to those that ask for none. -/
def routed (inner : Handler) : Handler := fun r => do
  let response ← inner r
  if r.method = "HEAD" then return response.withoutBody
  else if r.isRead ∨ (Route.ofPath r.path).isNone then return response
  else return response.mapHeaders (·.set "allow" allowedMethods)

/-- Answer a request. -/
def respond (a : App) (s : Surroundings) : Handler :=
  routed <| shared a.cors <| identified s.freshId <| counted <| limited s.limit <| compressing <|
    secured a.hsts <| a.dispatch s

end App

end ReportServer.Api
