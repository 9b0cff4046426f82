import ReportServer.Report.Definition

/-!
# Routes

The paths the server knows. One of them has a segment that is a report id; the segment is what
stands there, undecoded, and is not empty.
-/

namespace ReportServer.Http

/-- A path the server knows. -/
inductive Route where
  | health
  | ready
  | live
  | metrics
  | reports
  | report (segment : String)
deriving DecidableEq, Repr

namespace Route

/-- The paths without a variable segment. -/
def fixed : List (String × Route) :=
  [("/api/health", health), ("/api/health/ready", ready), ("/api/health/live", live),
    ("/metrics", metrics), (Report.reportsPath, reports)]

/-- What stands before the segment of a report. -/
def reportPrefix : List Char := (Report.reportsPath ++ "/").toList

/-- The segment of a report in a path. -/
def segmentOf (path : String) : Option String :=
  let s := path.toList
  let segment := s.drop reportPrefix.length
  if reportPrefix.isPrefixOf s ∧ !segment.isEmpty ∧ '/' ∉ segment then
    some (String.ofList segment)
  else none

/-- The route of a path. -/
def ofPath (path : String) : Option Route :=
  ((fixed.find? (·.1 == path)).map Prod.snd).or ((segmentOf path).map report)

/-- The pattern a route is counted under. -/
def pattern : Route → String
  | health => "/api/health"
  | ready => "/api/health/ready"
  | live => "/api/health/live"
  | metrics => "/metrics"
  | reports => Report.reportsPath
  | report _ => Report.reportsPath ++ "/:report_id"

/-- Whether a route needs a caller. -/
def isProtected : Route → Bool
  | reports => true
  | report _ => true
  | _ => false

end Route

end ReportServer.Http
