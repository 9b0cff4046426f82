import ReportServer.Proofs.Api.Counting
import ReportServer.Proofs.Api.Downloads

/-!
# What every answer carries

Handlers say what an answer is about and nothing else: the kind of its body, its length, the name of a file. What is
the same for all answers is put on by the layers, and which answers get it depends on how the layers are nested. Every
answer that has passed them has the same envelope, whatever its status and wherever it comes from: the headers that
tell browsers what they must not do with it, each of them once, and the id of its request.

So it is enough to look at the one layer that puts a header on, and to see that no layer further outside touches it.
-/

namespace ReportServer.Api

open Http (Request Response Route)

/-! ## What handlers put on -/

/-- The headers that handlers give their answers. -/
def handlerHeaders : List String := ["content-type", "content-disposition", "content-length"]

/-- Whether an answer has no other headers than those that handlers give. -/
def IsPlain (x : Response) : Prop := ∀ header ∈ x.headers, header.1 ∈ handlerHeaders

theorem IsPlain.all_eq_nil {x : Response} (h : IsPlain x) {name : String} (hn : name ∉ handlerHeaders) :
    x.headers.all name = [] := by
  rw [Http.Headers.all, List.map_eq_nil_iff, List.filter_eq_nil_iff]
  intro header hmem heq
  exact hn (eq_of_beq heq ▸ h header hmem)

theorem isPlain_bare (status : Nat) : IsPlain (.bare status) := by
  simp [IsPlain, Response.bare]

theorem isPlain_json (status : Nat) (v : Json.Value) : IsPlain (.json status v) := by
  simp [IsPlain, Response.json, handlerHeaders]

theorem isPlain_plain (status : Nat) (contentType body : String) : IsPlain (.plain status contentType body) := by
  simp [IsPlain, Response.plain, handlerHeaders]

theorem isPlain_reject (e : ApiError) : IsPlain (reject e).value := by
  rw [value_reject]
  exact isPlain_json _ _

variable {a : App} {s : Surroundings} {r : Request}

theorem isPlain_listReports (service : Export.Service) (user : Directory.User) :
    IsPlain (listReports service user r).value := by
  rw [listReports]
  cases hgroup : groupOf r.queryPairs with
  | error x =>
      obtain ⟨message, rfl⟩ := groupOf_eq_error hgroup
      exact isPlain_plain _ _ _
  | ok group =>
      cases hfault : groupFault group with
      | some e =>
          simp only [hfault]
          exact isPlain_reject e
      | none =>
          simp only [hfault, Trail.Traced.value_bind]
          cases (service.list group).value with
          | error e => exact isPlain_reject _
          | ok ds => exact isPlain_json _ _

theorem isPlain_exportReport (service : Export.Service) (user : Directory.User) (moment : Moment) (segment : String) :
    IsPlain (exportReport service user moment segment).value := by
  rw [exportReport]
  cases hid : idOfSegment segment with
  | error x =>
      obtain ⟨message, rfl⟩ := idOfSegment_eq_error hid
      exact isPlain_plain _ _ _
  | ok id =>
      cases hcheck : Name.checkReportId id with
      | error f =>
          simp only [hcheck]
          exact isPlain_reject _
      | ok =>
          simp only [hcheck, Trail.Traced.value_bind]
          cases hstart : (service.start id user moment).value with
          | error e => exact isPlain_reject _
          | ok offer =>
              obtain ⟨d, artifact, hstarts⟩ := Export.Service.start_eq_ok.mp hstart
              rw [hstarts.offer]
              simp [IsPlain, Export.Offer.response, Delivery.headersOf, handlerHeaders]

theorem isPlain_publicHandler (route : Route) : IsPlain (a.publicHandler s route r).value := by
  cases route with
  | health => exact isPlain_json _ _
  | live => exact isPlain_json _ _
  | ready =>
      simp only [App.publicHandler, ready]
      split
      · exact isPlain_json _ _
      · exact isPlain_bare _
  | metrics =>
      simp only [App.publicHandler, showMeasures]
      cases s.measured <;> exact isPlain_plain _ _ _
  | reports | report => exact isPlain_bare _

/-- **Handlers say what an answer is about**, and nothing else. -/
theorem isPlain_dispatch : IsPlain (a.dispatch s r).value := by
  have hreads : ∀ h : Handler, IsPlain (h r).value → IsPlain (App.readsOnly h r).value := by
    intro h hh
    rw [App.readsOnly]
    split
    · exact hh
    · exact isPlain_bare 405
  have hprotected : ∀ (user : Directory.User) (route : Route), IsPlain (a.protectedHandler s user route r).value := by
    intro user route
    cases route with
    | reports => exact isPlain_listReports a.service user
    | report segment => exact isPlain_exportReport a.service user s.moment segment
    | health | ready | live | metrics => exact isPlain_bare 404
  rw [App.dispatch]
  cases Route.ofPath r.path with
  | none => exact isPlain_bare 404
  | some route =>
      simp only
      split
      · rw [Trail.Traced.value_bind]
        cases (requireUser a.lookUp r.headers).value with
        | error e => exact isPlain_reject e
        | ok user => exact hreads _ (hprotected user route)
      · exact hreads _ (isPlain_publicHandler route)

/-! ## What the layers put on -/

/-- The envelope of an answer: what its headers say apart from what the answer is about. -/
structure Enveloped (hsts : Bool) (id : String) (h : Http.Headers) : Prop where
  /-- Browsers are not to guess kinds, not to show the answer in frames, and to filter scripts. -/
  sniffing : h.all "x-content-type-options" = ["nosniff"]
  framing : h.all "x-frame-options" = ["DENY"]
  scripts : h.all "x-xss-protection" = ["1; mode=block"]
  /-- They are to insist on encryption exactly if that is set. -/
  encryption : h.all "strict-transport-security" = if hsts then ["max-age=31536000; includeSubDomains"] else []
  /-- A file is not to be stored, and nothing is said about what is no file. -/
  storing : h.all "cache-control" = if h.contains "content-disposition" then ["no-store"] else []
  /-- The answer names its request. -/
  identified : h.all "x-request-id" = [id]

/-- The headers that the layers further outside give to answers. -/
def outerHeaders : List String :=
  ["vary", "content-length", "content-encoding", "x-request-id", "access-control-allow-origin", "allow"]

theorem all_compressed_of_outer {name : String} (hn : name ∉ outerHeaders) (h : Http.Headers) (x : Response) :
    (Http.compressed h x).headers.all name = x.headers.all name := by
  refine App.all_compressed_of_notMem (fun hmem => hn ?_) h x
  simp only [App.compressionHeaders, List.mem_cons, List.not_mem_nil, or_false] at hmem
  rcases hmem with rfl | rfl | rfl <;> decide

section Outside

variable (hopt : r.isOptions = false) (hs : s.overdue = false)
include hopt hs

/-- What other sites are told, and which methods are allowed, changes no other header. -/
theorem all_finished_of_ne {name : String} (hvary : "vary" ≠ name) (horigin : "access-control-allow-origin" ≠ name)
    (hallow : "allow" ≠ name) (x : Response) : (a.finished s r x).headers.all name
      = ((Http.compressed r.headers (App.securityHeaders a.hsts x)).headers.set "x-request-id"
          (App.idOf s.freshId r)).all name := by
  have hanswered : (a.answered s r x).headers.all name
      = ((Http.compressed r.headers (App.securityHeaders a.hsts x)).headers.set "x-request-id"
          (App.idOf s.freshId r)).all name := by
    rw [App.answered, hopt, App.handled, hs]
    show Http.Headers.all (_ ++ a.cors.headers r.headers) name = _
    rw [Http.Headers.all_append, App.all_corsHeaders_of_ne hvary horigin, List.append_nil]
    rfl
  rw [App.finished, ← hanswered]
  split
  · rfl
  · split
    · rfl
    · exact Http.Headers.all_set_of_ne hallow

/-- The answer names its request, -/
theorem all_finished_requestId (x : Response) :
    (a.finished s r x).headers.all "x-request-id" = [App.idOf s.freshId r] := by
  rw [all_finished_of_ne hopt hs (by decide) (by decide) (by decide), Http.Headers.all_set_self]

/-- and what it got further inside it keeps. -/
theorem all_finished_of_outer {name : String} (hn : name ∉ outerHeaders) (x : Response) :
    (a.finished s r x).headers.all name = (App.securityHeaders a.hsts x).headers.all name := by
  have hne : ∀ other ∈ outerHeaders, other ≠ name := fun other ho he => hn (he ▸ ho)
  rw [all_finished_of_ne hopt hs (hne _ (by decide)) (hne _ (by decide)) (hne _ (by decide)),
    Http.Headers.all_set_of_ne (hne _ (by decide)), all_compressed_of_outer hn]

end Outside

/-- The layer of common headers puts an answer of a handler into its envelope, up to the id of the request. -/
theorem all_securityHeaders_of_isPlain {x : Response} (hx : IsPlain x) (hsts : Bool) :
    let h := (App.securityHeaders hsts x).headers
    h.all "x-content-type-options" = ["nosniff"] ∧ h.all "x-frame-options" = ["DENY"]
      ∧ h.all "x-xss-protection" = ["1; mode=block"]
      ∧ h.all "strict-transport-security" = (if hsts then ["max-age=31536000; includeSubDomains"] else [])
      ∧ h.all "cache-control" = if h.contains "content-disposition" then ["no-store"] else [] := by
  have hcache : x.headers.all "cache-control" = [] := hx.all_eq_nil (by decide)
  have htransport : x.headers.all "strict-transport-security" = [] := hx.all_eq_nil (by decide)
  -- two of the headers are put on under a condition, so there are four kinds of answers
  by_cases hfile : x.headers.all "content-disposition" = []
  · cases hsts <;> simp [App.securityHeaders, Response.mapHeaders, Http.Headers.contains_eq_not_isEmpty,
      Http.Headers.all_set, hfile, hcache, htransport]
  · cases hsts <;> simp [App.securityHeaders, Response.mapHeaders, Http.Headers.contains_eq_not_isEmpty,
      Http.Headers.all_set, hfile, htransport]

/-! ## The id of a request -/

/-- `Brings h id`: this is the first id that a request gives itself, and it can be used. -/
structure Brings (h : Http.Headers) (id : String) : Prop where
  first : h.first? "x-request-id" = some id
  nonempty : id ≠ ""
  /-- It is visible ASCII, blanks and tabs. -/
  plain : ∀ c ∈ id.toList, c = '\t' ∨ ' ' ≤ c ∧ c ≤ '~'

/-- `Identified fresh h id`: a request goes by the id it brings, and by a fresh one if it brings none. -/
inductive Identified (fresh : String) (h : Http.Headers) : String → Prop
  | brought {id : String} : Brings h id → Identified fresh h id
  | fresh : (∀ id : String, ¬ Brings h id) → Identified fresh h fresh

theorem broughtId_eq_some {h : Http.Headers} {id : String} : App.broughtId h = some id ↔ Brings h id := by
  have husable : (Http.isPlainValue id && !id.isEmpty) = true
      ↔ id ≠ "" ∧ ∀ c ∈ id.toList, c = '\t' ∨ ' ' ≤ c ∧ c ≤ '~' := by
    simp [Http.isPlainValue, Http.isPlainChar_iff, and_comm]
  rw [App.broughtId, Option.filter_eq_some_iff, husable]
  exact ⟨fun ⟨hfirst, hne, hplain⟩ => ⟨hfirst, hne, hplain⟩, fun ⟨hfirst, hne, hplain⟩ => ⟨hfirst, hne, hplain⟩⟩

theorem identified_idOf (fresh : String) (r : Request) : Identified fresh r.headers (App.idOf fresh r) := by
  rw [App.idOf]
  cases hid : App.broughtId r.headers with
  | some id => exact .brought (broughtId_eq_some.mp hid)
  | none => exact .fresh fun id hb => absurd (hid.symm.trans (broughtId_eq_some.mpr hb)) (by simp)

/-! ## The path of a request -/

/-- `Matches path pattern`: the path fits the pattern, one of those that the server knows. -/
inductive Matches : String → String → Prop
  | health : Matches "/api/health" "/api/health"
  | ready : Matches "/api/health/ready" "/api/health/ready"
  | live : Matches "/api/health/live" "/api/health/live"
  | metrics : Matches "/metrics" "/metrics"
  | reports : Matches "/api/v1/reports" "/api/v1/reports"
  | report {segment : String} : segment.toList ≠ [] → '/' ∉ segment.toList →
    Matches ("/api/v1/reports/" ++ segment) "/api/v1/reports/:report_id"

/-- `CountedUnder path label`: requests for a path that the server knows are counted under the pattern that it fits,
and all others under their own path. -/
inductive CountedUnder (path : String) : String → Prop
  | known {pattern : String} : Matches path pattern → CountedUnder path pattern
  | unknown : (∀ pattern : String, ¬ Matches path pattern) → CountedUnder path path

/-- A segment of a report is what follows the path of the reports, up to the end. -/
theorem of_segmentOf_eq_some {path segment : String} (h : Route.segmentOf path = some segment) :
    segment.toList ≠ [] ∧ '/' ∉ segment.toList ∧ path = "/api/v1/reports/" ++ segment := by
  simp only [Route.segmentOf] at h
  split at h
  · rename_i hsegment
    obtain ⟨hfront, hne, hslash⟩ := hsegment
    have hpath := List.prefix_iff_eq_append.mp (List.isPrefixOf_iff_prefix.mp hfront)
    obtain rfl := Option.some.inj h
    rw [String.toList_ofList]
    refine ⟨by simpa using hne, hslash, String.toList_inj.mp ?_⟩
    rw [String.toList_append, String.toList_ofList (l := path.toList.drop _)]
    exact hpath.symm
  · exact absurd h (by simp)

theorem matches_of_ofPath {path : String} {route : Route} (h : Route.ofPath path = some route) :
    Matches path route.pattern := by
  have hfixed : ∀ known ∈ Route.fixed, Matches known.1 known.2.pattern := by
    simp only [Route.fixed, List.forall_mem_cons]
    exact ⟨.health, .ready, .live, .metrics, .reports, nofun⟩
  rw [Route.ofPath, Option.or_eq_some_iff] at h
  rcases h with h | ⟨-, h⟩
  · obtain ⟨known, hfind, rfl⟩ := Option.map_eq_some_iff.mp h
    obtain rfl : known.1 = path := by simpa using List.find?_some hfind
    exact hfixed known (List.mem_of_find?_eq_some hfind)
  · obtain ⟨segment, hsegment, rfl⟩ := Option.map_eq_some_iff.mp h
    obtain ⟨hne, hslash, rfl⟩ := of_segmentOf_eq_some hsegment
    exact .report hne hslash

/-- A path that fits a pattern has a route, and the pattern is that of the route. -/
theorem exists_ofPath_of_matches {path pattern : String} (h : Matches path pattern) :
    ∃ route : Route, Route.ofPath path = some route ∧ route.pattern = pattern := by
  cases h with
  | health => exact ⟨.health, by decide, rfl⟩
  | ready => exact ⟨.ready, by decide, rfl⟩
  | live => exact ⟨.live, by decide, rfl⟩
  | metrics => exact ⟨.metrics, by decide, rfl⟩
  | reports => exact ⟨.reports, by decide, rfl⟩
  | report hne hslash => exact ⟨_, ofPath_report hne hslash, by rfl⟩

theorem countedUnder_pathLabel (path : String) : CountedUnder path (App.pathLabel path) := by
  rw [App.pathLabel]
  cases hroute : Route.ofPath path with
  | some route => exact .known (matches_of_ofPath hroute)
  | none =>
      refine .unknown fun pattern hpattern => ?_
      obtain ⟨route, h, -⟩ := exists_ofPath_of_matches hpattern
      exact absurd (hroute.symm.trans h) (by simp)

/-! ## At the top -/

/--
**Every answer has its envelope, and every request is counted once.** Whatever a server is set to, whoever it relies on
and whatever is asked of it, but for requests that only ask what they may do and requests that take too long: the
answer has every header of the envelope once, and one point is added to the count of requests, with the status that the
caller gets, under the pattern of the route.
-/
theorem enveloped {settings : Settings} {service : Export.Service} {lookUp : LookUp}
    (hset : App.ofSettings settings service lookUp = some a) (ha : a.LeavesCounting) (hopt : r.isOptions = false)
    (hs : s.overdue = false) (mode : Delivery.ReadMode) :
    (∃ id : String, Identified s.freshId r.headers id
        ∧ Enveloped settings.security.hstsEnabled id (exchange a s mode r).value.response.headers)
      ∧ ∃ path : String, CountedUnder r.path path
        ∧ Trail.requestPoints (exchange a s mode r).trail = [⟨.counter, "http_requests_total",
          [("method", App.methodLabel r.method), ("path", path),
            ("status", toString (exchange a s mode r).value.response.status)], some 1⟩] := by
  have hhsts : a.hsts = settings.security.hstsEnabled := by
    obtain ⟨cors, -, rfl⟩ := Option.map_eq_some_iff.mp hset
    rfl
  refine ⟨⟨_, identified_idOf s.freshId r, ?_⟩, _, countedUnder_pathLabel r.path,
    requestPoints_exchange ha hopt hs mode⟩
  have hkept : ∀ name : String, name ∉ outerHeaders → (exchange a s mode r).value.response.headers.all name
      = (App.securityHeaders a.hsts (a.dispatch s r).value).headers.all name := by
    intro name hn
    rw [(value_exchange a s mode r).1, App.value_respond, all_finished_of_outer hopt hs hn]
  obtain ⟨hsniffing, hframing, hscripts, hencryption, hstoring⟩ :=
    all_securityHeaders_of_isPlain (isPlain_dispatch (a := a) (s := s) (r := r)) a.hsts
  rw [← hhsts]
  constructor
  case sniffing => rw [hkept _ (by decide), hsniffing]
  case framing => rw [hkept _ (by decide), hframing]
  case scripts => rw [hkept _ (by decide), hscripts]
  case encryption => rw [hkept _ (by decide), hencryption]
  case storing =>
    rw [hkept _ (by decide), hstoring, Http.Headers.contains_eq_not_isEmpty, Http.Headers.contains_eq_not_isEmpty,
      hkept _ (by decide)]
  case identified =>
    rw [(value_exchange a s mode r).1, App.value_respond, all_finished_requestId hopt hs]

/-- A file that nobody reads is not to be stored either, and its request is counted under the pattern of its route. -/
theorem enveloped_unread_file :
    let settings : Settings := ⟨.unset, .unset "postgres://localhost/reports", .unset, ⟨[], true⟩, .unset, .unset⟩
    let r : Request := ⟨"GET", "", "/api/v1/reports/7", none,
      [("authorization", "Bearer t"), ("x-request-id", "a b\t1"), ("x-request-id", "c")]⟩
    App.ofSettings settings sampleLibrary.service sampleLibrary.lookUp = some sampleLibrary
      ∧ sampleLibrary.LeavesCounting
      ∧ (exchange sampleLibrary sampleSurroundings .unread r).value.response.headers.all "cache-control" = ["no-store"]
      ∧ (exchange sampleLibrary sampleSurroundings .unread r).value.response.headers.all "x-request-id" = ["a b\t1"]
      ∧ Trail.requestPoints (exchange sampleLibrary sampleSurroundings .unread r).trail
        = [⟨.counter, "http_requests_total",
          [("method", "GET"), ("path", "/api/v1/reports/:report_id"), ("status", "200")], some 1⟩] := by
  intro settings r
  have hset : App.ofSettings settings sampleLibrary.service sampleLibrary.lookUp = some sampleLibrary := rfl
  have hcounting : sampleLibrary.LeavesCounting :=
    { lookUp := fun token => by unfold sampleLibrary; dsimp only; split <;> rfl
      find := fun _ => rfl
      list := fun _ => rfl
      execute := fun _ => rfl
      record := fun _ => rfl }
  obtain ⟨⟨id, hid, henveloped⟩, path, hpath, hpoints⟩ :=
    enveloped (r := r) (s := sampleSurroundings) hset hcounting (by decide) rfl .unread
  have hresponse : (exchange sampleLibrary sampleSurroundings .unread r).value.response
      = sampleLibrary.finished sampleSurroundings r (sampleLibrary.dispatch sampleSurroundings r).value := by
    rw [(value_exchange sampleLibrary sampleSurroundings .unread r).1, App.value_respond]
  refine ⟨hset, hcounting, ?_, ?_, ?_⟩
  · have hfile : (exchange sampleLibrary sampleSurroundings .unread r).value.response.headers.all "content-disposition"
        = ["attachment; filename=\"r_20240203_040506.csv\""] := by
      rw [hresponse, all_finished_of_outer rfl rfl (by decide), App.all_securityHeaders (by decide)]
      decide +kernel
    rw [henveloped.storing, Http.Headers.contains_eq_not_isEmpty, hfile]
    rfl
  · have hbrings : Brings r.headers "a b\t1" := broughtId_eq_some.mp (by decide)
    rw [henveloped.identified]
    cases hid with
    | brought h => rw [Option.some.inj (h.first.symm.trans hbrings.first)]
    | fresh h => exact absurd hbrings (h _)
  · have hstatus : (exchange sampleLibrary sampleSurroundings .unread r).value.response.status = 200 := by
      rw [hresponse, App.status_finished rfl]
      decide +kernel
    have hroute : Route.ofPath r.path = some (.report "7") := by decide
    rw [hpoints, hstatus]
    cases hpath with
    | known h =>
        obtain ⟨route, hroute', rfl⟩ := exists_ofPath_of_matches h
        rw [← Option.some.inj (hroute.symm.trans hroute')]
        rfl
    | unknown h => exact absurd (matches_of_ofPath hroute) (h _)

end ReportServer.Api
