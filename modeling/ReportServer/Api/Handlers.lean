import ReportServer.Api.Auth
import ReportServer.Export.Service
import ReportServer.Http.Request
import ReportServer.Http.Route
import ReportServer.Name.Group
import ReportServer.Report.Summary
import ReportServer.Settings.Basic
import ReportServer.Text.Quoted
import ReportServer.Trail.Exposition

/-!
# What each route does

The listing and the export of reports need a caller and check what they are asked for before they
turn to the service. The other routes say how the server is. A request that cannot even be read
(a query with the group twice, a segment that is no number) is refused in plain text; every other
refusal is in JSON.
-/

namespace ReportServer.Api

open Trail (Traced)

/-- Whether a request keeps its time limit. One that passes it is given up when the first of the things it takes are
done, as many as there was time for. -/
inductive Limit where
  | kept
  | passed (done : Nat)
deriving DecidableEq, Repr

/-- A request that is given up at once, or one that is not. -/
instance : Coe Bool Limit := ⟨fun overdue => if overdue then .passed 0 else .kept⟩

/-- What a request finds around it. -/
structure Surroundings where
  /-- The clock. -/
  moment : Moment
  /-- An id for a request that brings none. -/
  freshId : String
  /-- How long the database takes to answer, if it answers, in milliseconds. -/
  database : Option Nat
  /-- What has been measured so far, if it is kept. -/
  measured : Option (List Trail.Measure)
  /-- Whether the request takes longer than it may. -/
  limit : Limit
  /-- What is written to the log. -/
  filter : Trail.Filter

/-- Whether the request takes longer than it may. -/
def Surroundings.overdue (s : Surroundings) : Bool := s.limit != .kept

/-- Where the events about reports come from. -/
def reportsTarget : String := "report_service_api::routes::reports"

/-- The answer to a failed request. The detail of an internal failure is logged. -/
def reject (e : ApiError) : Traced Http.Response := do
  match e with
  | .internal _ => Traced.log .error errorTarget e.message []
  | _ => pure ()
  return .json e.status e.body

/-- The answer to a request that cannot be read. -/
def refuseText (message : String) : Http.Response :=
  .plain 400 "text/plain; charset=utf-8" message

/-! ## Reports -/

/-- The group a listing is asked for; an error if it is asked for twice. -/
def groupOf (pairs : List (String × String)) : Except Http.Response (Option String) :=
  match (pairs.filter (·.1 == "group")).map Prod.snd with
  | [] => .ok none
  | [g] => .ok (some g)
  | _ => .error (refuseText "Failed to deserialize query string: duplicate field `group`")

/-- What is wrong with a group, if one is asked for. -/
def groupFault (group : Option String) : Option ApiError :=
  match group.map Name.checkGroupName with
  | some (.error e) => some (.ofFieldFaults [("group", e.fault)])
  | _ => none

/-- How the log names a group. -/
def shownGroup : Option String → String
  | some g => "Some(" ++ Text.quoted g ++ ")"
  | none => "None"

/-- List reports. -/
def listReports (s : Export.Service) (user : Directory.User) (r : Http.Request) :
    Traced Http.Response := do
  match groupOf r.queryPairs with
  | .error response => return response
  | .ok group =>
    match groupFault group with
    | some e => reject e
    | none =>
      match ← s.list group with
      | .error e => reject (.ofExport e)
      | .ok ds =>
        Traced.log .debug reportsTarget "Listed reports"
          [("user", .str user.identity), ("group", .str (shownGroup group)), ("count", .int ds.length)]
        return .json 200 (Report.Listing.ofDefinitions ds).toJson

/-- A signed 64-bit number in decimal, with an optional sign. -/
def parseId (s : String) : Option Int64 :=
  let (negative, ds) := match s.toList with
    | '-' :: rest => (true, rest)
    | '+' :: rest => (false, rest)
    | ds => (false, ds)
  if ds.isEmpty ∨ !ds.all Char.isDigit then none
  else
    let n : Int := ds.foldl (fun n c => n * 10 + (c.toNat - 48)) (0 : Nat)
    let i := if negative then -n else n
    if Int64.minValue.toInt ≤ i ∧ i ≤ Int64.maxValue.toInt then some (Int64.ofInt i) else none

/-- The report id of a segment. -/
def idOfSegment (segment : String) : Except Http.Response Int64 :=
  match Text.ofUtf8? (Net.percentDecoded segment) with
  | none => .error (refuseText "Invalid URL: Invalid UTF-8 in `report_id`")
  | some s =>
    match parseId s with
    | some id => .ok id
    | none =>
      .error (refuseText ("Invalid URL: Cannot parse `" ++ Text.quoted s ++ "` to a `i64`"))

/-- Export a report. -/
def exportReport (s : Export.Service) (user : Directory.User) (moment : Moment) (segment : String) :
    Traced Http.Response := do
  match idOfSegment segment with
  | .error response => return response
  | .ok id =>
    match Name.checkReportId id with
    | .error f => reject (.ofFault f)
    | .ok () =>
      match ← s.start id user moment with
      | .error e => reject (.ofExport e)
      | .ok offer => return offer.response

/-! ## The server itself -/

/-- The version of the server. -/
def version : String := "0.3.0"

/-- How the server is. -/
def healthReport (provider : String) (database : Option Nat) : Json.Value :=
  .obj [("status", .str (if database.isSome then "healthy" else "unhealthy")),
    ("version", .str version),
    ("database", .obj [("connected", .bool database.isSome),
      ("latency_ms", match database with | some ms => .int ms | none => .null)]),
    ("directory", .obj [("provider", .str provider)])]

/-- Say how the server is. -/
def health (provider : String) (database : Option Nat) : Http.Response :=
  .json (if database.isSome then 200 else 503) (healthReport provider database)

/-- A status in one word. -/
def statusWord (word : String) : Json.Value := .obj [("status", .str word)]

/-- Say whether the server can do its work. -/
def ready (database : Option Nat) : Http.Response :=
  if database.isSome then .json 200 (statusWord "ready") else .bare 503

/-- Say that the server is there. -/
def live : Http.Response := .json 200 (statusWord "alive")

/-- Show what has been measured, with the state of the connection pool, in which nothing is open. -/
def showMeasures (measured : Option (List Trail.Measure)) : Traced Http.Response := do
  match measured with
  | none => return .plain 500 "text/plain" "Metrics not initialized"
  | some ms =>
    let pool := Trail.Measure.connections 0 0 0
    Traced.measure pool
    return .plain 200 "text/plain; version=0.0.4" (Trail.exposition (ms ++ [pool]))

end ReportServer.Api
