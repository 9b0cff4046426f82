import ReportServer.Directory.Source
import ReportServer.Proofs.Api.Gate
import ReportServer.Proofs.Database.Measures
import ReportServer.Proofs.Database.Query

/-!
# Requests are counted once

A request is counted on the way back, by one of the layers, with the status that its answer has there. No handler counts
requests, nor does anybody the server relies on, nor what happens after the answer, while the body is read and the
export behind it is settled. So an exchange adds one point to the count of requests, and because no layer further
outside changes the status, it is the status that the caller gets.
-/

namespace ReportServer

/-! ## The count of requests -/

namespace Trail

/-- The points that a trail adds to the count of requests. -/
def requestPoints (trail : List Entry) : List Point :=
  ((measures trail).flatMap Measure.points).filter (·.name = "http_requests_total")

@[simp] theorem requestPoints_nil : requestPoints [] = [] := rfl

@[simp] theorem requestPoints_append (a b : List Entry) :
    requestPoints (a ++ b) = requestPoints a ++ requestPoints b := by
  simp [requestPoints]

@[simp] theorem requestPoints_call (c : Call) : requestPoints (Traced.call c).trail = [] := rfl

@[simp] theorem requestPoints_measure (m : Measure) :
    requestPoints (Traced.measure m).trail = m.points.filter (·.name = "http_requests_total") := by
  simp [requestPoints]

@[simp] theorem requestPoints_log (level : Level) (target message : String)
    (fields : List (String × Json.Value)) :
    requestPoints (Traced.log level target message fields).trail = [] := rfl

theorem requestPoints_within {α : Type} (s : Span) (x : Traced α) :
    requestPoints (x.within s).trail = requestPoints x.trail := by
  rw [requestPoints, measures_within, requestPoints]

/-- A trail that measures nothing counts no requests. -/
theorem requestPoints_of_measures {trail : List Entry} (h : measures trail = []) : requestPoints trail = [] := by
  rw [requestPoints, h]
  rfl

end Trail

namespace Api

open Http (Request Response Route)
open Trail (Point requestPoints)

variable {a : App} {s : Surroundings} {r : Request}

/-- `a.LeavesCounting`: those whom the server relies on leave the counting of requests to it. -/
structure App.LeavesCounting (a : App) : Prop where
  lookUp : ∀ token : String, requestPoints (a.lookUp token).trail = []
  find : ∀ id : Int64, requestPoints (a.service.collaborators.find id).trail = []
  list : ∀ group : Option String, requestPoints (a.service.collaborators.list group).trail = []
  execute : ∀ sql : String, requestPoints (a.service.collaborators.execute sql).trail = []
  record : ∀ entry : Report.Tracking, requestPoints (a.service.collaborators.record entry).trail = []

/-- A directory measures nothing. -/
theorem measures_lookUp (source : Directory.Source) (token : String) :
    Trail.measures (source.lookUp token).trail = [] := by
  cases source with
  | graph g =>
      simp only [Directory.Source.lookUp, Directory.Graph.lookUp]
      split
      · rfl
      · cases g.request token <;> rfl
  | stub user =>
      simp only [Directory.Source.lookUp, Directory.lookUpStub]
      split <;> rfl

/-- The directories and the database leave the counting of requests to the server. -/
theorem leavesCounting_database (source : Directory.Source) (l : Database.Link) (timeoutMs : Nat)
    (hlookUp : a.lookUp = source.lookUp)
    (hcollaborators : a.service.collaborators = Database.collaborators l timeoutMs) : a.LeavesCounting where
  lookUp token := by rw [hlookUp]; exact Trail.requestPoints_of_measures (measures_lookUp source token)
  find id := by
    simp [hcollaborators, Database.collaborators, requestPoints, Database.measures_find, Trail.Measure.points]
  list group := by
    simp [hcollaborators, Database.collaborators, requestPoints, Database.measures_list, Trail.Measure.points]
  execute sql := by
    simp only [hcollaborators, Database.collaborators, requestPoints, Database.QueryRunner.measures_execute]
    cases ((Database.QueryRunner.mk l timeoutMs).execute sql).value <;> simp [Trail.Measure.points]
  record entry := by
    simp [hcollaborators, Database.collaborators, requestPoints, Database.measures_record, Trail.Measure.points]

theorem requestPoints_reject (e : ApiError) : requestPoints (reject e).trail = [] := by
  cases e <;> rfl

section Counting

variable (ha : a.LeavesCounting)
include ha

theorem requestPoints_requireUser (h : Http.Headers) : requestPoints (requireUser a.lookUp h).trail = [] := by
  have hreject : ∀ e : Directory.LookupError, requestPoints (rejectLookup e).trail = [] := by
    intro e
    cases e <;> rfl
  have hholder : ∀ token : String, requestPoints (holderOf a.lookUp token).trail = [] := by
    intro token
    simp only [holderOf, Trail.Traced.trail_bind, Trail.requestPoints_append, Trail.requestPoints_call, ha.lookUp,
      List.nil_append]
    cases (a.lookUp token).value with
    | ok user => rfl
    | error e => simp [hreject]
  rw [requireUser]
  cases bearerToken h with
  | none => rfl
  | some token =>
      simp only [Trail.Traced.trail_bind, Trail.requestPoints_append, hholder, List.nil_append]
      cases (holderOf a.lookUp token).value <;> simp

theorem requestPoints_listReports (user : Directory.User) :
    requestPoints (listReports a.service user r).trail = [] := by
  rw [listReports]
  cases groupOf r.queryPairs with
  | error x => rfl
  | ok group =>
      cases hfault : groupFault group with
      | some e => simp only [hfault, requestPoints_reject]
      | none =>
          simp only [hfault, Export.Service.list, Trail.Traced.trail_bind, Trail.Traced.value_bind,
            Trail.requestPoints_append, Trail.requestPoints_call, ha.list, List.nil_append]
          cases (a.service.collaborators.list group).value with
          | error e => exact requestPoints_reject _
          | ok ds => simp

/-- An export that starts, or fails to, is counted as an export. -/
theorem requestPoints_start (id : Int64) (user : Directory.User) (moment : Moment) :
    requestPoints (a.service.start id user moment).trail = [] := by
  have hresolve : requestPoints (a.service.resolve id).trail = [] := by
    simp only [Export.Service.resolve, Trail.Traced.trail_bind, Trail.requestPoints_append, Trail.requestPoints_call,
      ha.find, List.nil_append]
    cases (a.service.collaborators.find id).value with
    | error e => rfl
    | ok found => cases found <;> rfl
  have htable : ∀ d : Report.Definition, requestPoints (a.service.table d).trail = [] := fun d => by
    simp [Export.Service.table, ha.execute]
  have hrun : requestPoints (a.service.run id user moment).trail = [] := by
    simp only [Export.Service.run, Trail.Traced.trail_bind, Trail.requestPoints_append, hresolve, List.nil_append]
    cases (a.service.resolve id).value with
    | error e => rfl
    | ok d =>
        simp only [Trail.Traced.trail_bind, Trail.requestPoints_append, htable, List.nil_append]
        cases (a.service.table d).value with
        | error e => rfl
        | ok t =>
            simp only
            cases (d.encode a.service.pack t moment).bind (a.service.offer id user) <;> simp
  simp only [Export.Service.start, Trail.Traced.trail_bind, Trail.requestPoints_append, Trail.requestPoints_log, hrun,
    List.nil_append]
  cases (a.service.run id user moment).value <;> simp [Trail.Measure.points]

theorem requestPoints_exportReport (user : Directory.User) (moment : Moment) (segment : String) :
    requestPoints (exportReport a.service user moment segment).trail = [] := by
  rw [exportReport]
  cases idOfSegment segment with
  | error x => rfl
  | ok id =>
      cases hcheck : Name.checkReportId id with
      | error f => simp only [hcheck, requestPoints_reject]
      | ok =>
          simp only [hcheck, Trail.Traced.trail_bind, Trail.requestPoints_append, requestPoints_start ha,
            List.nil_append]
          cases (a.service.start id user moment).value with
          | error e => exact requestPoints_reject _
          | ok offer => rfl

/-- **No handler counts a request.** -/
theorem requestPoints_dispatch : requestPoints (a.dispatch s r).trail = [] := by
  have hpublic : ∀ route : Route, requestPoints (a.publicHandler s route r).trail = [] := by
    intro route
    cases route with
    | metrics =>
        simp only [App.publicHandler, showMeasures]
        cases s.measured with
        | none => rfl
        | some ms => simp [Trail.Measure.points]
    | health | ready | live | reports | report => rfl
  have hprotected : ∀ (user : Directory.User) (route : Route),
      requestPoints (a.protectedHandler s user route r).trail = [] := by
    intro user route
    cases route with
    | reports => exact requestPoints_listReports ha user
    | report segment => exact requestPoints_exportReport ha user s.moment segment
    | health | ready | live | metrics => rfl
  have hreads : ∀ h : Handler, requestPoints (h r).trail = [] →
      requestPoints (App.readsOnly h r).trail = [] := by
    intro h hh
    rw [App.readsOnly]
    split
    · exact hh
    · rfl
  rw [App.dispatch]
  cases Route.ofPath r.path with
  | none => rfl
  | some route =>
      simp only
      split
      · simp only [Trail.Traced.trail_bind, Trail.requestPoints_append, requestPoints_requireUser ha, List.nil_append]
        cases (requireUser a.lookUp r.headers).value with
        | error e => exact requestPoints_reject e
        | ok user => exact hreads _ (hprotected user route)
      · exact hreads _ (hpublic route)

/-- Settling an export counts it as an export. -/
theorem requestPoints_settle (e : Export.InFlight) (moment : Moment) (v : Delivery.Outcome) :
    requestPoints (e.settle a.service.collaborators.record moment v).trail = [] := by
  cases v with
  | sinkClosed => simp [Export.InFlight.settle, Trail.Measure.points]
  | delivered n =>
      simp only [Export.InFlight.settle, Trail.Traced.trail_bind, Trail.requestPoints_append, ha.record]
      cases (a.service.collaborators.record (e.tracking moment)).value <;> simp [Trail.Measure.points]

/-- Nothing that follows an answer counts a request. -/
theorem requestPoints_consume (mode : Delivery.ReadMode) (keepsOpen : Bool) {closing : Trail.Traced Unit}
    (hclosing : requestPoints closing.trail = []) (x : Response) :
    requestPoints (consume a.service.collaborators.record s.moment mode keepsOpen closing x).trail = [] := by
  have hdropped : ∀ p : Delivery.Publication, requestPoints (Export.bodyDropped p).trail = [] := by
    intro p
    rw [Export.bodyDropped]
    split <;> rfl
  have hstopped : ∀ p : Delivery.Publication, requestPoints (Export.writerStopped p).trail = [] := by
    intro p
    rw [Export.writerStopped]
    split <;> rfl
  have hfinish : ∀ (e : Export.InFlight) (reading : Delivery.Reading) (body : Delivery.Reading → Option (List UInt8)),
      requestPoints (consume.finish a.service.collaborators.record s.moment keepsOpen closing x e reading body).trail
        = [] := by
    intro e reading body
    unfold consume.finish
    split <;> simp [hdropped, hstopped, hclosing, requestPoints_settle ha]
  cases hbody : x.body with
  | text text =>
      simp only [consume, hbody]
      simpa using hclosing
  | stream e | abandoned e =>
      simp only [consume, hbody, hfinish]

end Counting

/-! ## Through the layers -/

namespace App

variable (inner : Handler)

theorem requestPoints_routed : requestPoints (routed inner r).trail = requestPoints (inner r).trail := by
  simp only [routed, Trail.Traced.trail_bind, Trail.requestPoints_append]
  split
  · simp
  · split <;> simp

theorem requestPoints_shared (policy : Http.CorsPolicy) (h : r.isOptions = false) :
    requestPoints (shared policy inner r).trail = requestPoints (inner r).trail := by
  simp [shared, h]

theorem requestPoints_identified (freshId : String) :
    requestPoints (identified freshId inner r).trail = requestPoints (inner r).trail := by
  simp only [identified, Trail.requestPoints_within, Trail.Traced.trail_bind, Trail.requestPoints_append]
  simp [Trail.Traced.note, requestPoints, Trail.measures, Trail.Entry.measure?]

/-- The point that a request adds to the count of requests. -/
def requestPoint (r : Request) (status : Nat) : Point :=
  ⟨.counter, "http_requests_total",
    [("method", methodLabel r.method), ("path", pathLabel r.path), ("status", toString status)], some 1⟩

theorem requestPoints_counted : requestPoints (counted inner r).trail
    = requestPoints (inner r).trail ++ [requestPoint r (inner r).value.status] := by
  simp [counted, Trail.Measure.points, requestPoint]

end App

/-- **An exchange is counted once**, with the status that the caller gets. -/
theorem requestPoints_exchange (ha : a.LeavesCounting) (hopt : r.isOptions = false) (hs : s.overdue = false)
    (mode : Delivery.ReadMode) : requestPoints (exchange a s mode r).trail
      = [App.requestPoint r (exchange a s mode r).value.response.status] := by
  have hclosing : requestPoints (closeRequest s r).trail = [] := by
    rw [closeRequest, hopt]
    rfl
  -- behind the layer that counts, the answer has the status that it has at the end
  have hlimit : s.limit = .kept := by simpa [Surroundings.overdue] using hs
  have hstatus : (App.limited s.limit (App.compressing (App.secured a.hsts (a.dispatch s))) r).value.status
      = (a.respond s r).value.status := by
    rw [App.value_respond, App.status_finished hopt, App.value_limited, hs]
    exact compressed_status _ _
  have hinner : requestPoints
      (App.limited s.limit (App.compressing (App.secured a.hsts (a.dispatch s))) r).trail = [] := by
    simp [App.limited, App.compressing, App.secured, hlimit, requestPoints_dispatch ha]
  have hrespond : requestPoints (a.respond s r).trail = [App.requestPoint r (a.respond s r).value.status] := by
    rw [App.respond, App.requestPoints_routed, App.requestPoints_shared _ _ hopt, App.requestPoints_identified,
      App.requestPoints_counted, hinner, hstatus]
    rfl
  rw [(value_exchange a s mode r).1, exchange, Trail.Traced.trail_bind, Trail.requestPoints_append, hrespond,
    requestPoints_consume ha mode _ hclosing]
  rfl

end Api

end ReportServer
