import ReportServer.Http.Request
import ReportServer.Http.Response

/-!
# Calls from other sites

Which sites may call is a list of origins. Without a list every site may. Entries that cannot be
sent as a header are left out, but a list of such entries is still a list, and lets nobody in. An
origin is let in if it is exactly an entry.
-/

namespace ReportServer.Http

/-- Which sites may call. -/
inductive CorsPolicy where
  | anyone
  | only (origins : List String)
deriving DecidableEq, Repr

namespace CorsPolicy

/-- The origin that stands for every site and must not be in a list. -/
def wildcard : String := "*"

/-- The policy of a list of origins; none if the list holds the wildcard. -/
def ofList (origins : List String) : Option CorsPolicy :=
  if origins.isEmpty then some anyone
  else
    let valid := origins.filter isHeaderValue
    if wildcard ∈ valid then none else some (only valid)

/-- The origin an answer names. -/
def allowed (p : CorsPolicy) (origin : Option String) : Option String :=
  match p with
  | anyone => some wildcard
  | only origins => origin.filter (· ∈ origins)

/-- The header that names the origin that is let in. -/
def originHeader (p : CorsPolicy) (h : Headers) : Headers :=
  match p.allowed (h.first? "origin") with
  | some o => [("access-control-allow-origin", o)]
  | none => []

/-- What the answer depends on. -/
def varyHeader : String × String :=
  ("vary", "origin, access-control-request-method, access-control-request-headers")

/-- The headers every answer gets. -/
def headers (p : CorsPolicy) (request : Headers) : Headers := varyHeader :: p.originHeader request

/-- The answer to a request that asks what it may do: everything. -/
def preflight (p : CorsPolicy) (request : Headers) : Response :=
  ⟨200, p.headers request ++ [("access-control-allow-methods", "*"),
    ("access-control-allow-headers", "*"), ("content-length", "0")], .text ""⟩

end CorsPolicy

end ReportServer.Http
