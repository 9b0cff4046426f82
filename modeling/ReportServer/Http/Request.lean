import ReportServer.Http.Header
import ReportServer.Net.Form

/-!
# Requests

A request has a method, a target and headers. The target is a path and perhaps a query, both as
they were sent; what follows a number sign is not sent. A target may also be absolute, and then the
path begins after scheme and authority; a target that is an authority alone has no path.
-/

namespace ReportServer.Http

/-- A request. -/
structure Request where
  method : String
  /-- The scheme and the authority, if the target has them. -/
  origin : String
  path : String
  query : Option String
  headers : Headers
deriving DecidableEq, Repr

namespace Request

/-- The characters of a scheme. -/
def isSchemeChar (c : Char) : Bool := c.isAlphanum || c == '+' || c == '-' || c == '.'

/-- What follows the authority of an absolute target. -/
def afterAuthority? (s : List Char) : Option (List Char) :=
  match s.dropWhile isSchemeChar with
  | ':' :: '/' :: '/' :: rest => some (rest.dropWhile fun c => c != '/' && c != '?' && c != '#')
  | _ => none

/-- The path and the query that stand at the front. -/
def splitPath (s : List Char) : List Char × Option (List Char) :=
  let s := s.takeWhile (· != '#')
  let path := s.takeWhile (· != '?')
  match s.drop path.length with
  | '?' :: q => (path, some q)
  | _ => (path, none)

/-- What stands before the path of a target, the path and the query. The path of an absolute target
is never empty. -/
def splitTarget (s : List Char) : List Char × List Char × Option (List Char) :=
  if s.head? = some '/' ∨ s = ['*'] then ([], splitPath s)
  else
    match afterAuthority? s with
    | none => (s, [], none)
    | some rest =>
      let (path, query) := splitPath rest
      (s.take (s.length - rest.length), if path.isEmpty then ['/'] else path, query)

/-- The request of a method for a target. Names of headers are taken in lower case. -/
def make (method target : String) (headers : Headers) : Request :=
  let (origin, path, query) := splitTarget target.toList
  ⟨method, String.ofList origin, String.ofList path, query.map String.ofList,
    headers.map fun (name, value) => (name.toLower, value)⟩

/-- The whole target. -/
def target (r : Request) : String :=
  r.origin ++ r.path ++ (match r.query with | some q => "?" ++ q | none => "")

/-- Whether the request reads: only such requests have handlers. -/
def isRead (r : Request) : Bool := r.method == "GET" || r.method == "HEAD"

theorem isRead_of_get {r : Request} (h : r.method = "GET") : r.isRead = true := by simp [isRead, h]

/-- Whether the request asks what it may do. -/
def isOptions (r : Request) : Bool := r.method == "OPTIONS"

/-- The pairs of the query. -/
def queryPairs (r : Request) : List (String × String) := Net.formPairs (r.query.getD "")

end Request

end ReportServer.Http
