import ReportServer.Export.InFlight
import ReportServer.Http.Header

/-!
# Answers

An answer has a status, headers and a body. A body is a text that is there as a whole, or an export
that is read chunk by chunk; an export may also be under way behind an answer without a body, and
then nobody will ever read it.
-/

namespace ReportServer.Http

/-- The body of an answer. -/
inductive Body where
  | text (s : String)
  | stream (e : Export.InFlight)
  /-- An export that nobody will read. -/
  | abandoned (e : Export.InFlight)
deriving DecidableEq, Repr

/-- An answer. -/
structure Response where
  status : Nat
  headers : Headers
  body : Body
deriving DecidableEq, Repr

namespace Response

/-- An answer without headers and body. -/
def bare (status : Nat) : Response := ⟨status, [], .text ""⟩

/-- An answer in JSON. -/
def json (status : Nat) (v : Json.Value) : Response :=
  ⟨status, [("content-type", "application/json")], .text v.compact⟩

/-- An answer in plain text of a media type. -/
def plain (status : Nat) (contentType body : String) : Response :=
  ⟨status, [("content-type", contentType)], .text body⟩

/-- The answer with other headers. -/
def mapHeaders (f : Headers → Headers) (r : Response) : Response := { r with headers := f r.headers }

/-- The answer without its body. An export behind it is under way all the same. -/
def withoutBody (r : Response) : Response :=
  { r with body := match r.body with
    | .text _ => .text ""
    | .stream e => .abandoned e
    | .abandoned e => .abandoned e }

/-- The export behind an answer. -/
def export? (r : Response) : Option Export.InFlight :=
  match r.body with
  | .text _ => none
  | .stream e => some e
  | .abandoned e => some e

end Response

end ReportServer.Http
