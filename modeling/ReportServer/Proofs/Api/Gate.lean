import ReportServer.Proofs.Api.Asking
import ReportServer.Proofs.Api.Layers
import ReportServer.Proofs.Api.Secrecy
import ReportServer.Proofs.Export.Tracking

/-!
# The gate in front of the reports

A request to the report routes is judged by what it presents and by what it asks for, and there are four
verdicts. Which collaborators are called, what the handler sees and which status a refusal has can be
told from the verdict alone, so each of these is said once for all verdicts.

The caller is found in two places that do not know of each other: at the gate, and in front of a handler
that finds no caller who is known already. Both come to the same.
-/

namespace ReportServer.Api

open Http (Request Response Route)
open Trail (Call)

/-! ## Who is calling -/

section Caller

variable (lookUp : LookUp) (h : Http.Headers)

/-- The calls that finding a caller takes: one look-up of the token, if there is one. -/
def callerCalls : Option String → List Call
  | some token => .lookUp token :: Trail.calls (lookUp token).trail
  | none => []

/-- What comes of finding a caller. -/
def callerFound : Option String → Except ApiError Directory.User
  | some token => (lookUp token).value.mapError ApiError.ofLookup
  | none => .error .missingToken

theorem calls_rejectLookup (e : Directory.LookupError) : Trail.calls (rejectLookup e).trail = [] := by
  cases e <;> rfl

theorem value_holderOf (token : String) : (holderOf lookUp token).value = callerFound lookUp (some token) := by
  simp only [holderOf, callerFound, Trail.Traced.value_bind]
  cases (lookUp token).value with
  | ok user => rfl
  | error e => cases e <;> rfl

theorem calls_holderOf (token : String) :
    Trail.calls (holderOf lookUp token).trail = callerCalls lookUp (some token) := by
  simp only [holderOf, callerCalls, Trail.Traced.trail_bind, Trail.calls_append, Trail.calls_call,
    List.singleton_append]
  cases (lookUp token).value with
  | ok user => simp
  | error e => simp [calls_rejectLookup]

theorem value_requireUser : (requireUser lookUp h).value = callerFound lookUp (bearerToken h) := by
  rw [requireUser]
  cases bearerToken h with
  | none => rfl
  | some token =>
      simp only [Trail.Traced.value_bind, ← value_holderOf]
      cases (holderOf lookUp token).value <;> rfl

theorem calls_requireUser :
    Trail.calls (requireUser lookUp h).trail = callerCalls lookUp (bearerToken h) := by
  rw [requireUser]
  cases bearerToken h with
  | none => rfl
  | some token =>
      simp only [Trail.Traced.trail_bind, Trail.calls_append, calls_holderOf]
      cases (holderOf lookUp token).value <;> simp

theorem value_currentUser : (currentUser lookUp none h).value = callerFound lookUp (bearerToken h) := by
  cases ht : bearerToken h with
  | none => simp only [currentUser, ht]; rfl
  | some token => simp only [currentUser, ht, value_holderOf]

theorem calls_currentUser :
    Trail.calls (currentUser lookUp none h).trail = callerCalls lookUp (bearerToken h) := by
  cases ht : bearerToken h with
  | none => simp only [currentUser, ht]; rfl
  | some token => simp only [currentUser, ht, calls_holderOf]

end Caller

theorem calls_reject (e : ApiError) : Trail.calls (reject e).trail = [] := by
  cases e <;> rfl

theorem value_reject (e : ApiError) : (reject e).value = .json e.status e.body := by
  cases e <;> rfl

/-! ## Verdicts -/

/-- What a request to the report routes comes to. -/
inductive Verdict where
  /-- Nobody is calling. -/
  | anonymous
  /-- The directory does not vouch for the token. -/
  | unknown (token : String)
  /-- Somebody asks for something that cannot be asked for. -/
  | malformed (token : String) (user : Directory.User)
  /-- Somebody asks for something. -/
  | admitted (token : String) (user : Directory.User) (wish : Wish)

/-- `Judged a r route v`: on this route the request comes to `v`. -/
inductive Judged (a : App) (r : Request) (route : Route) : Verdict → Prop where
  | anonymous : (∀ token : String, ¬ Presents r.headers token) → Judged a r route .anonymous
  | unknown {token : String} {e : Directory.LookupError} : Presents r.headers token →
      (a.lookUp token).value = .error e → Judged a r route (.unknown token)
  | malformed {token : String} {user : Directory.User} : Presents r.headers token →
      (a.lookUp token).value = .ok user → (∀ wish : Wish, ¬ Asks r route wish) →
      Judged a r route (.malformed token user)
  | admitted {token : String} {user : Directory.User} {wish : Wish} : Presents r.headers token →
      (a.lookUp token).value = .ok user → Asks r route wish → Judged a r route (.admitted token user wish)

/-- The calls that a wish takes. -/
def Wish.calls (s : Export.Service) : Wish → List Call
  | listing group => .list group :: Trail.calls (s.collaborators.list group).trail
  | file id => s.startCalls id

namespace Verdict

/-- The token that was looked up. -/
def token? : Verdict → Option String
  | anonymous => none
  | unknown token | malformed token _ | admitted token _ _ => some token

/-- The caller, if the directory vouches for one. -/
def user? : Verdict → Option Directory.User
  | malformed _ user | admitted _ user _ => some user
  | _ => none

/-- The status of the refusal, if the request is refused. -/
def refusal? : Verdict → Option Nat
  | anonymous | unknown _ => some 401
  | malformed .. => some 400
  | admitted .. => none

/-- The calls of the handler. -/
def handlerCalls (s : Export.Service) : Verdict → List Call
  | admitted _ _ wish => wish.calls s
  | _ => []

end Verdict

/-- Every request comes to something. -/
theorem exists_judged (a : App) (r : Request) (route : Route) : ∃ v : Verdict, Judged a r route v := by
  cases ht : bearerToken r.headers with
  | none => exact ⟨_, .anonymous (bearerToken_eq_none.mp ht)⟩
  | some token =>
      have hpresents := bearerToken_eq_some.mp ht
      cases hl : (a.lookUp token).value with
      | error e => exact ⟨_, .unknown hpresents hl⟩
      | ok user =>
          by_cases hw : ∃ wish : Wish, Asks r route wish
          · obtain ⟨wish, hw⟩ := hw
            exact ⟨_, .admitted hpresents hl hw⟩
          · exact ⟨_, .malformed hpresents hl (not_exists.mp hw)⟩

variable {a : App} {s : Surroundings} {r : Request} {route : Route} {v : Verdict}

theorem Judged.token (h : Judged a r route v) : bearerToken r.headers = v.token? := by
  cases h with
  | anonymous hnone => exact bearerToken_eq_none.mpr hnone
  | unknown hp => exact bearerToken_eq_some.mpr hp
  | malformed hp => exact bearerToken_eq_some.mpr hp
  | admitted hp => exact bearerToken_eq_some.mpr hp

/-- The caller is found exactly if the verdict names one. -/
theorem Judged.found (h : Judged a r route v) : match v.user? with
    | some user => callerFound a.lookUp v.token? = .ok user
    | none => ∃ e : ApiError, callerFound a.lookUp v.token? = .error e ∧ e.status = 401 := by
  cases h with
  | anonymous => exact ⟨_, rfl, rfl⟩
  | @unknown token e _ hl =>
      refine ⟨.ofLookup e, ?_, by cases e <;> rfl⟩
      simp only [Verdict.token?, callerFound, hl]
      rfl
  | malformed _ hl => simp only [Verdict.user?, Verdict.token?, callerFound, hl]; rfl
  | admitted _ hl => simp only [Verdict.user?, Verdict.token?, callerFound, hl]; rfl

/-! ## The handlers -/

theorem calls_listReports (service : Export.Service) (user : Directory.User) {group : Option String}
    (h : Asks r .reports (.listing group)) :
    Trail.calls (listReports service user r).trail = (Wish.listing group).calls service := by
  obtain ⟨hgroup, hfault⟩ := asks_listing_iff.mp h
  simp only [listReports, hgroup, hfault, Export.Service.list, Wish.calls, Trail.Traced.trail_bind,
    Trail.Traced.value_bind, Trail.calls_append, Trail.calls_call]
  cases (service.collaborators.list group).value <;> simp [calls_reject]

theorem calls_exportReport (service : Export.Service) (user : Directory.User) (moment : Moment)
    {segment : String} {id : Int64} (h : Asks r (.report segment) (.file id)) :
    Trail.calls (exportReport service user moment segment).trail = (Wish.file id).calls service := by
  obtain ⟨hid, hcheck⟩ := asks_file_iff.mp h
  simp only [exportReport, hid, hcheck, Wish.calls, Trail.Traced.trail_bind, Trail.calls_append,
    Export.Service.calls_start]
  cases (service.start id user moment).value <;> simp [calls_reject]

/-- `Refuses n x`: `x` is a refusal of the status `n`, with nothing under way behind it, and nobody was
called for it. -/
structure Refuses (n : Nat) (x : Trail.Traced Response) : Prop where
  status : x.value.status = n
  body : x.value.export? = none
  calls : Trail.calls x.trail = []

theorem refuses_reject (e : ApiError) : Refuses e.status (reject e) := by
  refine ⟨?_, ?_, calls_reject e⟩
  · rw [value_reject]
    rfl
  · rw [value_reject]
    rfl

theorem refuses_text (message : String) : Refuses 400 (pure (refuseText message)) := ⟨rfl, rfl, rfl⟩

theorem groupOf_eq_error {pairs : List (String × String)} {x : Response} (h : groupOf pairs = .error x) :
    ∃ message : String, x = refuseText message := by
  unfold groupOf at h
  split at h
  · exact absurd h (by simp)
  · exact absurd h (by simp)
  · injection h with h
    exact ⟨_, h.symm⟩

theorem status_of_groupFault {group : Option String} {e : ApiError} (h : groupFault group = some e) :
    e.status = 400 := by
  unfold groupFault at h
  split at h
  · injection h with h
    rw [← h]
    rfl
  · exact absurd h (by simp)

theorem idOfSegment_eq_error {segment : String} {x : Response} (h : idOfSegment segment = .error x) :
    ∃ message : String, x = refuseText message := by
  unfold idOfSegment at h
  split at h
  · injection h with h
    exact ⟨_, h.symm⟩
  · split at h
    · exact absurd h (by simp)
    · injection h with h
      exact ⟨_, h.symm⟩

theorem refuses_listReports (service : Export.Service) (user : Directory.User)
    (h : ∀ wish : Wish, ¬ Asks r .reports wish) : Refuses 400 (listReports service user r) := by
  rw [listReports]
  cases hgroup : groupOf r.queryPairs with
  | error x =>
      obtain ⟨message, rfl⟩ := groupOf_eq_error hgroup
      exact refuses_text message
  | ok group =>
      cases hfault : groupFault group with
      | none => exact absurd (asks_listing_iff.mpr ⟨hgroup, hfault⟩) (h _)
      | some e =>
          simp only [hfault]
          exact status_of_groupFault hfault ▸ refuses_reject e

theorem refuses_exportReport (service : Export.Service) (user : Directory.User) (moment : Moment)
    {segment : String} (h : ∀ wish : Wish, ¬ Asks r (.report segment) wish) :
    Refuses 400 (exportReport service user moment segment) := by
  rw [exportReport]
  cases hid : idOfSegment segment with
  | error x =>
      obtain ⟨message, rfl⟩ := idOfSegment_eq_error hid
      exact refuses_text message
  | ok id =>
      cases hcheck : Name.checkReportId id with
      | ok => exact absurd (asks_file_iff.mpr ⟨hid, hcheck⟩) (h _)
      | error f =>
          simp only [hcheck]
          exact refuses_reject (.ofFault f)

theorem refuses_protectedHandler (user : Directory.User) (hp : route.isProtected = true)
    (h : ∀ wish : Wish, ¬ Asks r route wish) : Refuses 400 (a.protectedHandler s user route r) := by
  cases route with
  | reports => exact refuses_listReports a.service user h
  | report segment => exact refuses_exportReport a.service user s.moment h
  | health | ready | live | metrics => exact absurd hp (by simp [Route.isProtected])

theorem calls_protectedHandler (user : Directory.User) {wish : Wish} (h : Asks r route wish) :
    Trail.calls (a.protectedHandler s user route r).trail = wish.calls a.service := by
  cases h with
  | listing hq hg => exact calls_listReports a.service user (.listing hq hg)
  | file hs hid => exact calls_exportReport a.service user s.moment (Asks.file (r := r) hs hid)

/-- Nothing is under way behind a listing. -/
theorem export_listReports (service : Export.Service) (user : Directory.User) :
    (listReports service user r).value.export? = none := by
  rw [listReports]
  cases hgroup : groupOf r.queryPairs with
  | error x =>
      obtain ⟨message, rfl⟩ := groupOf_eq_error hgroup
      rfl
  | ok group =>
      cases hfault : groupFault group with
      | some e =>
          simp only [hfault]
          exact (refuses_reject e).body
      | none =>
          simp only [hfault, Trail.Traced.value_bind]
          cases (service.list group).value with
          | error e => exact (refuses_reject _).body
          | ok ds => rfl

/-- What is under way behind an export was started for the caller, with the id that the segment names. -/
theorem exists_start_of_exportReport {service : Export.Service} {user : Directory.User} {moment : Moment}
    {segment : String} {e : Export.InFlight}
    (he : (exportReport service user moment segment).value.export? = some e) :
    ∃ (id : Int64) (offer : Export.Offer), idOfSegment segment = .ok id
      ∧ (service.start id user moment).value = .ok offer ∧ offer.inFlight = e := by
  -- a refusal has nothing under way behind it, whatever it is that is refused
  rw [exportReport] at he
  cases hid : idOfSegment segment with
  | error x =>
      obtain ⟨message, rfl⟩ := idOfSegment_eq_error hid
      rw [hid] at he
      exact absurd ((refuses_text message).body.symm.trans he) (by simp)
  | ok id =>
      simp only [hid] at he
      cases hcheck : Name.checkReportId id with
      | error f =>
          simp only [hcheck] at he
          exact absurd ((refuses_reject (.ofFault f)).body.symm.trans he) (by simp)
      | ok =>
          simp only [hcheck, Trail.Traced.value_bind] at he
          cases hstart : (service.start id user moment).value with
          | error err =>
              rw [hstart] at he
              exact absurd ((refuses_reject (.ofExport err)).body.symm.trans he) (by simp)
          | ok offer =>
              rw [hstart] at he
              exact ⟨id, offer, rfl, hstart, Option.some.inj he⟩

/-- It is the caller's own, of the id asked for. -/
theorem export_exportReport {service : Export.Service} {user : Directory.User} {moment : Moment}
    {segment : String} {id : Int64} (h : Asks r (.report segment) (.file id)) {e : Export.InFlight}
    (he : (exportReport service user moment segment).value.export? = some e) :
    e.reportId = id ∧ e.generatedBy = user.identity := by
  obtain ⟨id', offer, hid', hstart, rfl⟩ := exists_start_of_exportReport he
  obtain rfl : id' = id := Except.ok.inj (hid'.symm.trans (asks_file_iff.mp h).1)
  obtain ⟨d, artifact, hstarts⟩ := Export.Service.start_eq_ok.mp hstart
  rw [hstarts.offer]
  exact ⟨rfl, rfl⟩

theorem export_protectedHandler {user : Directory.User} {wish : Wish} (h : Asks r route wish)
    {e : Export.InFlight} (he : (a.protectedHandler s user route r).value.export? = some e) :
    wish = .file e.reportId ∧ e.generatedBy = user.identity := by
  cases h with
  | listing => exact absurd ((export_listReports a.service user).symm.trans he) (by simp)
  | file hs hid =>
      obtain ⟨rfl, hby⟩ := export_exportReport (Asks.file (r := r) hs hid) he
      exact ⟨rfl, hby⟩

/-! ## The gate -/

namespace App

/-- What a handler makes of the caller who was found, or the refusal if nobody was. -/
def answerTo (handler : Directory.User → Handler) (r : Request) :
    Except ApiError Directory.User → Trail.Traced Response
  | .error e => reject e
  | .ok user => handler user r

/-- A handler that finds its caller by itself, unless the caller is known already. -/
def withCaller (a : App) (known : Option Directory.User) (handler : Directory.User → Handler) : Handler :=
  fun r => do answerTo handler r (← currentUser a.lookUp known r.headers)

/-- Behind the gate the handler is called with whoever was found. -/
theorem dispatch_of_protected (hread : r.isRead = true) (hroute : Route.ofPath r.path = some route)
    (hp : route.isProtected = true) : a.dispatch s r
      = requireUser a.lookUp r.headers >>= answerTo (fun user => a.protectedHandler s user route) r := by
  simp only [dispatch, hroute, hp, if_true, readsOnly, hread]
  rfl

/-- A caller who is known already is not looked up again. -/
theorem withCaller_known (user : Directory.User) (handler : Directory.User → Handler) :
    a.withCaller (some user) handler r = handler user r := rfl

variable (hread : r.isRead = true) (hroute : Route.ofPath r.path = some route)
  (hp : route.isProtected = true)
include hread hroute hp

/-- **Nobody is called but by the verdict**: the directory for the token, the others for a wish. -/
theorem calls_dispatch (h : Judged a r route v) : Trail.calls (a.dispatch s r).trail
    = callerCalls a.lookUp v.token? ++ v.handlerCalls a.service := by
  rw [dispatch_of_protected hread hroute hp, Trail.Traced.trail_bind, Trail.calls_append, calls_requireUser,
    value_requireUser, h.token]
  -- the look-up is the same on both sides; what is called behind it depends on who was found
  congr 1
  have hfound := h.found
  cases h with
  | anonymous => exact calls_reject _
  | @unknown token e _ hl =>
      obtain ⟨err, herr, -⟩ := hfound
      rw [herr]
      exact calls_reject err
  | malformed _ hl hnone =>
      rw [hfound]
      exact (refuses_protectedHandler _ hp hnone).calls
  | admitted _ hl hw =>
      rw [hfound]
      exact calls_protectedHandler _ hw

/-- **The handler sees the caller whom the directory vouches for**, and nobody else. -/
theorem value_dispatch (h : Judged a r route v) : match v.user? with
    | some user => (a.dispatch s r).value = (a.protectedHandler s user route r).value
    | none => (a.dispatch s r).value.status = 401 ∧ (a.dispatch s r).value.export? = none := by
  rw [dispatch_of_protected hread hroute hp, Trail.Traced.value_bind, value_requireUser, h.token]
  have hfound := h.found
  cases hu : v.user? with
  | some user =>
      rw [hu] at hfound
      rw [hfound]
      rfl
  | none =>
      rw [hu] at hfound
      obtain ⟨e, he, hstatus⟩ := hfound
      rw [he]
      exact ⟨(refuses_reject e).status.trans hstatus, (refuses_reject e).body⟩

/-- **Without the gate it is the same**: a handler that finds its caller by itself lets nobody else in, and
calls nobody else. -/
theorem withCaller_unknown : (a.withCaller none (fun user => a.protectedHandler s user route) r).value
      = (a.dispatch s r).value
    ∧ Trail.calls (a.withCaller none (fun user => a.protectedHandler s user route) r).trail
      = Trail.calls (a.dispatch s r).trail := by
  rw [dispatch_of_protected hread hroute hp]
  simp only [withCaller, Trail.Traced.value_bind, Trail.Traced.trail_bind, Trail.calls_append,
    value_currentUser, value_requireUser, calls_currentUser, calls_requireUser, and_self]

end App

/-! ## Through the layers -/

theorem isOptions_of_isRead (h : r.isRead = true) : r.isOptions = false := by
  simp only [Request.isRead, Bool.or_eq_true, beq_iff_eq] at h
  rcases h with h | h <;> simp [Request.isOptions, h]

theorem export_withoutBody (x : Response) : x.withoutBody.export? = x.export? := by
  obtain ⟨status, headers, body⟩ := x
  cases body <;> rfl

theorem compressed_status (h : Http.Headers) (x : Response) : (Http.compressed h x).status = x.status := by
  unfold Http.compressed
  split
  · split <;> rfl
  · rfl

theorem export_compressed (h : Http.Headers) (x : Response) : (Http.compressed h x).export? = x.export? := by
  unfold Http.compressed
  split
  · split <;> rfl
  · rfl

namespace App

/-- The layers keep the status of an answer, unless time is up, -/
theorem status_finished (h : r.isOptions = false) (x : Response) :
    (a.finished s r x).status = if s.overdue then 408 else x.status := by
  have hanswered : (a.answered s r x).status = if s.overdue then 408 else x.status := by
    rw [answered, h, handled]
    cases s.overdue with
    | true => rfl
    | false => exact compressed_status _ _
  rw [finished]
  split
  · exact hanswered
  · split <;> exact hanswered

theorem finished_status (h : r.isRead = true) (x : Response) :
    (a.finished s r x).status = if s.overdue then 408 else x.status :=
  status_finished (isOptions_of_isRead h) x

/-- and what is under way behind it. -/
theorem finished_export (h : r.isRead = true) (x : Response) :
    (a.finished s r x).export? = if s.overdue then none else x.export? := by
  have hanswered : (a.answered s r x).export? = if s.overdue then none else x.export? := by
    rw [answered, isOptions_of_isRead h, handled]
    cases s.overdue with
    | true => rfl
    | false => exact export_compressed _ _
  rw [finished]
  split
  · exact (export_withoutBody _).trans hanswered
  · rw [if_pos (Or.inl h)]
    exact hanswered

theorem calls_routed (inner : Handler) : Trail.calls (routed inner r).trail = Trail.calls (inner r).trail := by
  simp only [routed, Trail.Traced.trail_bind, Trail.calls_append]
  split
  · simp
  · split <;> simp

theorem calls_shared (policy : Http.CorsPolicy) (inner : Handler) (h : r.isOptions = false) :
    Trail.calls (shared policy inner r).trail = Trail.calls (inner r).trail := by
  simp [shared, h]

theorem calls_identified (freshId : String) (inner : Handler) :
    Trail.calls (identified freshId inner r).trail = Trail.calls (inner r).trail := by
  simp only [identified, Trail.calls_within, Trail.Traced.trail_bind, Trail.calls_append]
  simp [Trail.Traced.note, Trail.calls, Trail.Entry.call?]

theorem calls_counted (inner : Handler) : Trail.calls (counted inner r).trail = Trail.calls (inner r).trail := by
  simp [counted]

/-- What is called in time for a request that is given up are the first of its calls. -/
theorem calls_limited (inner : Handler) : Trail.calls (limited s.limit inner r).trail <+: Trail.calls (inner r).trail
    ∧ (s.overdue = false → Trail.calls (limited s.limit inner r).trail = Trail.calls (inner r).trail) := by
  rw [Surroundings.overdue]
  cases s.limit with
  | kept => exact ⟨List.prefix_refl _, fun _ => rfl⟩
  | passed done => exact ⟨(List.take_prefix done _).filterMap _, fun h => absurd h (by simp)⟩

/-- No layer calls anybody. -/
theorem calls_respond_of_isOptions (h : r.isOptions = false) :
    Trail.calls (a.respond s r).trail <+: Trail.calls (a.dispatch s r).trail
      ∧ (s.overdue = false → Trail.calls (a.respond s r).trail = Trail.calls (a.dispatch s r).trail) := by
  have hcalls : Trail.calls (compressing (secured a.hsts (a.dispatch s)) r).trail
      = Trail.calls (a.dispatch s r).trail := by
    simp [compressing, secured]
  rw [respond, calls_routed, calls_shared _ _ h, calls_identified, calls_counted, ← hcalls]
  exact calls_limited _

theorem calls_respond (h : r.isRead = true) :
    Trail.calls (a.respond s r).trail <+: Trail.calls (a.dispatch s r).trail
      ∧ (s.overdue = false → Trail.calls (a.respond s r).trail = Trail.calls (a.dispatch s r).trail) :=
  calls_respond_of_isOptions (isOptions_of_isRead h)

end App

theorem calls_bodyDropped (p : Delivery.Publication) : Trail.calls (Export.bodyDropped p).trail = [] := by
  rw [Export.bodyDropped]
  split <;> rfl

theorem calls_writerStopped (p : Delivery.Publication) : Trail.calls (Export.writerStopped p).trail = [] := by
  rw [Export.writerStopped]
  split <;> rfl

section Consuming

variable (record : Export.Record) (moment : Moment) (keepsOpen : Bool) {closing : Trail.Traced Unit}
  (hc : Trail.calls closing.trail = [])
include hc

theorem calls_finish (x : Response) (e : Export.InFlight) (reading : Delivery.Reading)
    (body : Delivery.Reading → Option (List UInt8)) :
    Trail.calls (consume.finish record moment keepsOpen closing x e reading body).trail
      = Trail.calls (e.settle record moment reading.publication.verdict).trail := by
  unfold consume.finish
  split <;> simp [calls_bodyDropped, calls_writerStopped, hc]

/-- What follows an answer calls the recorder at most, and only if an export is behind the answer. -/
theorem calls_consume (mode : Delivery.ReadMode) (x : Response) :
    Trail.calls (consume record moment mode keepsOpen closing x).trail = []
      ∨ ∃ e : Export.InFlight, x.export? = some e
        ∧ Trail.calls (consume record moment mode keepsOpen closing x).trail
          = .record (e.tracking moment) :: Trail.calls (record (e.tracking moment)).trail := by
  have hsettle : ∀ (e : Export.InFlight) (v : Delivery.Outcome),
      Trail.calls (e.settle record moment v).trail = []
        ∨ Trail.calls (e.settle record moment v).trail
          = .record (e.tracking moment) :: Trail.calls (record (e.tracking moment)).trail := by
    intro e v
    rw [Export.calls_settle]
    cases v with
    | sinkClosed => exact Or.inl rfl
    | delivered n => exact Or.inr rfl
  cases hb : x.body with
  | text text =>
      left
      simp only [consume, hb]
      simpa using hc
  | stream e =>
      simp only [consume, hb, calls_finish record moment keepsOpen hc]
      exact (hsettle e _).imp_right fun h => ⟨e, by simp [Response.export?, hb], h⟩
  | abandoned e =>
      simp only [consume, hb, calls_finish record moment keepsOpen hc]
      exact (hsettle e _).imp_right fun h => ⟨e, by simp [Response.export?, hb], h⟩

end Consuming

/-! ## At the top -/

/-- What follows from the verdict on a request. -/
structure Guarded (a : App) (s : Surroundings) (mode : Delivery.ReadMode) (r : Request) (route : Route)
    (v : Verdict) : Prop where
  /-- On the way to the answer the directory is asked once for the token, if there is one. Store and
  executor are called for what may be asked for, by somebody whom the directory vouches for. -/
  calls : Trail.calls (a.dispatch s r).trail = callerCalls a.lookUp v.token? ++ v.handlerCalls a.service
  /-- The handler sees exactly the caller whom the directory vouches for. -/
  seen : ∀ user : Directory.User, v.user? = some user →
    (a.dispatch s r).value = (a.protectedHandler s user route r).value
  /-- Every other request is refused with the status of the verdict. -/
  refused : ∀ n : Nat, v.refusal? = some n → (a.dispatch s r).value.status = n
    ∧ (exchange a s mode r).value.response.status = if s.overdue then 408 else n
  /-- A request that is given up makes the first of these calls, as many as there was time for, and any other makes all
  of them. After the answer nobody is called but the recorder, about an export that was asked for and is not given up,
  and for its caller. -/
  after : ∃ made rest : List Call, Trail.calls (exchange a s mode r).trail = made ++ rest
    ∧ made <+: Trail.calls (a.dispatch s r).trail
    ∧ (s.overdue = false → made = Trail.calls (a.dispatch s r).trail)
    ∧ (rest = [] ∨ s.overdue = false ∧ ∃ (token : String) (user : Directory.User) (entry : Report.Tracking),
      v = .admitted token user (.file entry.reportId) ∧ entry.generatedBy = user.identity
        ∧ rest = .record entry :: Trail.calls (a.service.collaborators.record entry).trail)
  /-- A handler that looks for its caller takes the one who is known, without another look-up, -/
  known : ∀ user : Directory.User, a.withCaller (some user) (fun u => a.protectedHandler s u route) r
    = a.protectedHandler s user route r
  /-- and if none is known it answers and calls as the gate does. -/
  unknown : (a.withCaller none (fun u => a.protectedHandler s u route) r).value = (a.dispatch s r).value
    ∧ Trail.calls (a.withCaller none (fun u => a.protectedHandler s u route) r).trail
      = Trail.calls (a.dispatch s r).trail

/-- What is under way behind an answer is what an admitted caller asked for. -/
theorem Judged.export_dispatch (h : Judged a r route v) (hread : r.isRead = true)
    (hroute : Route.ofPath r.path = some route) (hp : route.isProtected = true) {e : Export.InFlight}
    (he : (a.dispatch s r).value.export? = some e) : ∃ (token : String) (user : Directory.User),
      v = .admitted token user (.file e.reportId) ∧ e.generatedBy = user.identity := by
  have hvalue := App.value_dispatch (s := s) hread hroute hp h
  cases h with
  | anonymous | unknown =>
      rw [hvalue.2] at he
      exact absurd he (by simp)
  | malformed _ _ hnone =>
      rw [hvalue, (refuses_protectedHandler _ hp hnone).body] at he
      exact absurd he (by simp)
  | @admitted token user wish _ _ hw =>
      rw [hvalue] at he
      obtain ⟨hfile, hby⟩ := export_protectedHandler hw he
      exact ⟨token, user, by rw [hfile], hby⟩

/--
**Nothing behind the report routes is reached without a verified caller and a valid request.** Every
request has a verdict, and from the verdict it follows who is called, what the handler sees and which
status a refusal has.
-/
theorem guarded (hread : r.isRead = true) (hroute : Route.ofPath r.path = some route)
    (hp : route.isProtected = true) (mode : Delivery.ReadMode) :
    (∃ v : Verdict, Judged a r route v) ∧ ∀ v : Verdict, Judged a r route v → Guarded a s mode r route v := by
  refine ⟨exists_judged a r route, fun v hv => ?_⟩
  have hvalue := App.value_dispatch (s := s) hread hroute hp hv
  constructor
  case calls => exact App.calls_dispatch hread hroute hp hv
  case seen =>
    intro user hu
    rw [hu] at hvalue
    exact hvalue
  case refused =>
    intro n hn
    have hstatus : (a.dispatch s r).value.status = n := by
      cases hv with
      | anonymous | unknown => exact hvalue.1.trans (Option.some.inj hn)
      | malformed _ _ hnone =>
          rw [hvalue, (refuses_protectedHandler _ hp hnone).status]
          exact Option.some.inj hn
      | admitted => exact absurd hn (by simp [Verdict.refusal?])
    refine ⟨hstatus, ?_⟩
    rw [(value_exchange a s mode r).1, App.value_respond, App.finished_status hread, hstatus]
  case after =>
    have hclosing : Trail.calls (closeRequest s r).trail = [] := by
      rw [closeRequest]
      split <;> rfl
    have hexchange : Trail.calls (exchange a s mode r).trail = Trail.calls (a.respond s r).trail
        ++ Trail.calls (consume a.service.collaborators.record s.moment mode (bodyKeepsOpen s r)
          (closeRequest s r) (a.respond s r).value).trail := by
      rw [exchange, Trail.Traced.trail_bind, Trail.calls_append]
    obtain ⟨hmade, hall⟩ := App.calls_respond (a := a) (s := s) hread
    refine ⟨_, _, hexchange, hmade, hall, ?_⟩
    rcases calls_consume a.service.collaborators.record s.moment (bodyKeepsOpen s r) hclosing mode
      (a.respond s r).value with hnone | ⟨e, he, hrecord⟩
    · exact Or.inl hnone
    · -- what is under way behind the answer was put there by the handler, for somebody who was admitted
      right
      rw [App.value_respond, App.finished_export hread] at he
      split at he
      · exact absurd he (by simp)
      · rename_i hs
        obtain ⟨token, user, hadmitted, hby⟩ := hv.export_dispatch hread hroute hp he
        exact ⟨by simpa using hs, token, user, e.tracking s.moment, hadmitted, hby, hrecord⟩
  case known =>
    intro user
    exact App.withCaller_known user _
  case unknown => exact App.withCaller_unknown hread hroute hp

/-- A request with a token that the directory knows runs the query of the report it asks for. -/
theorem guarded_failed_query :
    let a := sampleServer "SELECT a" (.database "no such table: a") "timeout"
    Guarded a sampleSurroundings .toEnd sampleRequest (.report "7")
        (.admitted "t" ⟨"1", "Ann", none, "ann"⟩ (.file 7))
      ∧ Trail.calls (a.dispatch sampleSurroundings sampleRequest).trail
        = [.lookUp "t", .find 7, .execute "SELECT a"] := by
  intro a
  have hpresents : Presents sampleRequest.headers "t" := bearerToken_eq_some.mp (by decide)
  have hnames : Names "7" 7 := idOfSegment_eq_ok.mp (by decide +kernel)
  have hasks : Asks sampleRequest (.report "7") (.file 7) := .file hnames (by decide)
  have hjudged : Judged a sampleRequest (.report "7") (.admitted "t" ⟨"1", "Ann", none, "ann"⟩ (.file 7)) :=
    .admitted hpresents rfl hasks
  have hguarded := (guarded (s := sampleSurroundings) (by decide) (by decide) (by decide) .toEnd).2 _ hjudged
  exact ⟨hguarded, hguarded.calls.trans rfl⟩

end ReportServer.Api
