import ReportServer.Json.Value

/-!
# Log events

What the server writes to its log: a level, the place it comes from, and a message with named
values. Events happen within spans, which name what the server is doing and last as long as it does
it.
-/

namespace ReportServer.Trail

/-- How important an event is, most important first. -/
inductive Level where
  | error
  | warn
  | info
  | debug
  | trace
deriving DecidableEq, Repr

/-- The rank of a level: a filter at a rank lets through what ranks no higher. -/
def Level.rank : Level → Nat
  | error => 1
  | warn => 2
  | info => 3
  | debug => 4
  | trace => 5

/-- The name of a level. -/
def Level.name : Level → String
  | error => "ERROR"
  | warn => "WARN"
  | info => "INFO"
  | debug => "DEBUG"
  | trace => "TRACE"

/-- Something that the server does for a while, with named values. -/
structure Span where
  level : Level
  name : String
  target : String
  fields : List (String × String)
deriving DecidableEq, Repr

/-- An event. -/
structure Event where
  level : Level
  target : String
  message : String
  fields : List (String × Json.Value)
  /-- The names of values that only the clock knows. -/
  timed : List String := []
  /-- The spans it happens within, from the outside. -/
  spans : List Span := []
deriving Repr

/-- The names of all values of an event. -/
def Event.fieldNames (e : Event) : List String := "message" :: e.fields.map Prod.fst ++ e.timed

/-- The event within one more span, around the others. -/
def Event.within (s : Span) (e : Event) : Event := { e with spans := s :: e.spans }

/-- The event that says that a span has ended. -/
def Span.closing (s : Span) : Event := { level := s.level, target := s.target, message := "close", fields := [] }

end ReportServer.Trail
