import ReportServer.Directory.User
import ReportServer.Http.Response

/-!
# The export service

Where definitions come from, who runs their queries and who keeps the tracking records are
collaborators of the service. Starting an export resolves the report, runs its query, encodes the
table and publishes the file; any of these may fail, and then the export has failed. Listing and
resolving do the one thing they say.
-/

namespace ReportServer.Export

open Trail (Traced)
open Report (ExportError Definition)

/-- Those the service relies on. -/
structure Collaborators where
  find : Int64 → Traced (Except ExportError (Option Definition))
  list : Option String → Traced (Except ExportError (List Definition))
  execute : String → Traced (Except ExportError Table)
  record : Record

/-- The export service: its collaborators, the base of output locations, and how a workbook is packed. -/
structure Service where
  collaborators : Collaborators
  outputBase : String
  pack : Workbook → List UInt8

/-- What a started export offers its caller: the headers of the answer, and the export behind it. -/
structure Offer where
  headers : Http.Headers
  inFlight : InFlight
deriving DecidableEq, Repr

/-- The answer that hands the export out. -/
def Offer.response (o : Offer) : Http.Response := ⟨200, o.headers, .stream o.inFlight⟩

namespace Service

/-- The definitions of a group, or all of them. -/
def list (s : Service) (group : Option String) : Traced (Except ExportError (List Definition)) := do
  Traced.call (.list group)
  s.collaborators.list group

/-- The definition of an id. -/
def resolve (s : Service) (id : Int64) : Traced (Except ExportError Definition) := do
  Traced.call (.find id)
  match ← s.collaborators.find id with
  | .error e => return .error e
  | .ok none => return .error (.notFound id)
  | .ok (some d) => return .ok d

/-- The table of a definition. -/
def table (s : Service) (d : Definition) : Traced (Except ExportError Table) := do
  Traced.call (.execute d.query)
  s.collaborators.execute d.query

/-- A failure to publish is a failure to encode. -/
def ofPublishError : Delivery.PublishError → ExportError
  | .response detail => .encoding detail
  | .sinkClosed => .encoding "response sink closed"

/-- What is offered for an artifact. -/
def offer (s : Service) (id : Int64) (user : Directory.User) (a : Report.Artifact) :
    Except ExportError Offer :=
  match Delivery.publish a with
  | .error e => .error (ofPublishError e)
  | .ok (headers, publication) =>
    .ok ⟨headers, ⟨id, user.identity, Report.outputLocation s.outputBase a.extension a.filename,
      a.extension, publication⟩⟩

/-- An export up to its offer. -/
def run (s : Service) (id : Int64) (user : Directory.User) (moment : Moment) :
    Traced (Except ExportError Offer) := do
  match ← s.resolve id with
  | .error e => return .error e
  | .ok d =>
    match ← s.table d with
    | .error e => return .error e
    | .ok t =>
      match (d.encode s.pack t moment).bind (s.offer id user) with
      | .error e => return .error e
      | .ok offer =>
        Traced.log .info logTarget "Report encoded, streaming"
          [idField id, ("rows", .int t.rows.length), ("format", .str d.extension.name)]
        return .ok offer

/-- Start an export: what is offered, or why nothing is. -/
def start (s : Service) (id : Int64) (user : Directory.User) (moment : Moment) :
    Traced (Except ExportError Offer) := do
  Traced.log .info logTarget "Starting report export" [idField id, ("user", .str user.identity)]
  match ← s.run id user moment with
  | .ok offer => return .ok offer
  | .error e =>
    Traced.measure (.exportFailed e.reason)
    Traced.log .warn logTarget "Report export failed"
      [idField id, ("reason", .str e.reason), ("error", .str e.message)]
    return .error e

end Service

end ReportServer.Export
