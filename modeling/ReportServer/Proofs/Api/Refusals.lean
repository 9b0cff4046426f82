import ReportServer.Proofs.Api.Envelope
import ReportServer.Proofs.Json.Writing

/-!
# Which refusals a program can read

Whoever is refused by the report routes is told why, and mostly in an object that a program can read: a code that goes
with the status, and a sentence. That is how every error of the service is shown, whether it comes from the gate, from a
check of what is asked for or from the service behind. But what is asked for has to be read before it can be checked. A
query that names two groups, and a segment that is no number, are turned away while the request is taken apart, and
there the refusal is a sentence and nothing else. These are the only ones, so it can be said of every request whether
its refusal can be read (`machineReadable_iff`).
-/

namespace ReportServer.Api

open Http (Request Response Route)
open Json (Document Means)

variable {a : App} {s : Surroundings} {r : Request} {route : Route} {x : Response}

/-! ## What a program can read -/

/-- The code that goes with a status. -/
inductive Coded : Nat → String → Prop
  | unauthorized : Coded 401 "unauthorized"
  | notFound : Coded 404 "not_found"
  | validation : Coded 400 "validation_error"
  | internal : Coded 500 "internal_error"

/-- `TellsError code bytes`: the bytes are a document, an object of two texts, which are the code and a message. -/
def TellsError (code : String) (bytes : List UInt8) : Prop :=
  ∃ (errorName error messageName message : List Char) (said : String),
    Document (.obj [(errorName, .text error), (messageName, .text message)]) (Text.ofBytes bytes)
      ∧ Means errorName "error" ∧ Means error code ∧ Means messageName "message" ∧ Means message said

/-- A refusal that a program can read. -/
def MachineReadable (x : Exchange) : Prop :=
  ∃ (code : String) (bytes : List UInt8), Coded x.response.status code ∧ x.body = some bytes ∧ TellsError code bytes

/-- A refusal that only people can read: a bad request, a sentence, and no object. -/
structure PlainlyRefused (x : Exchange) : Prop where
  status : x.response.status = 400
  kind : x.response.headers.all "content-type" = ["text/plain; charset=utf-8"]
  sentence : ∃ text : String, x.body = some (Text.utf8 text)
    ∧ ∀ members, ¬Document (.obj members) (Text.ofBytes (Text.utf8 text))

/-! ## Errors and sentences -/

/-- **Every error of the service can be read by a program.** -/
theorem tellsError_body (e : ApiError) : TellsError e.code (Text.utf8 e.body.compact) :=
  ⟨_, _, _, _, e.shown, Json.document_obj_texts [("error", e.code), ("message", e.shown)], Json.means_sentText _,
    Json.means_sentText _, Json.means_sentText _, Json.means_sentText _⟩

/-- A text that begins with a letter is no object. -/
theorem not_document_obj {text : String} {c : Char} {rest : List Char} (htext : text.toList = c :: rest)
    (hc : c.isAlpha = true) (members : List (List Char × Json.Outline)) :
    ¬Document (.obj members) (Text.ofBytes (Text.utf8 text)) := by
  have hascii : c.toNat < 0x80 :=
    Nat.lt_of_le_of_lt (Text.toNat_of_isAlphanum (by simp [Char.isAlphanum, hc])).2 (by decide)
  rw [Json.ofBytes_utf8, htext, Json.sent_cons_of_lt hascii]
  generalize hs : c :: Json.sent rest = s
  rintro @⟨before, w, after, _, hbefore, hw, -⟩
  cases hw with
  | obj =>
    -- the first character is a brace, or a character of the gap before it
    cases before with
    | nil =>
      obtain rfl : c = '\x7b' := (List.cons.inj hs).1
      exact absurd hc (by decide)
    | cons g before =>
      obtain rfl : c = g := (List.cons.inj hs).1
      have hgap := hbefore c List.mem_cons_self
      simp only [Json.isGap, Bool.or_eq_true, beq_iff_eq] at hgap
      rcases hgap with ((rfl | rfl) | rfl) | rfl <;> exact absurd hc (by decide)

/-! ## What handlers answer -/

/-- The part of the request that says what is asked for cannot be read. -/
inductive Garbled (r : Request) : Route → Prop
  /-- There is more than one group. -/
  | groups : 2 ≤ (r.queryPairs.filter (·.1 == "group")).length → Garbled r .reports
  /-- The segment is no id. -/
  | segment {segment : String} : (∀ id : Int64, ¬Names segment id) → Garbled r (.report segment)

/-- `Answers r route x`: what a handler of the report routes may answer. -/
inductive Answers (r : Request) (route : Route) (x : Response) : Prop
  | granted : x.status = 200 → Answers r route x
  /-- A request that can be read is refused with an error, -/
  | refused {e : ApiError} : ¬Garbled r route → Coded e.status e.code → x = .json e.status e.body → Answers r route x
  /-- and one that cannot be read is refused with a sentence. -/
  | garbled {message : String} {c : Char} {rest : List Char} : Garbled r route → message.toList = c :: rest →
    c.isAlpha = true → x = refuseText message → Answers r route x

theorem answers_reject {e : ApiError} (h : ¬Garbled r route) (hcode : Coded e.status e.code) :
    Answers r route (reject e).value :=
  .refused h hcode (value_reject e)

theorem coded_ofExport (e : Report.ExportError) : Coded (ApiError.ofExport e).status (ApiError.ofExport e).code := by
  cases e with
  | notFound => exact .notFound
  | database | encoding | configuration | malformed => exact .internal

theorem coded_ofLookup (e : Directory.LookupError) : Coded (ApiError.ofLookup e).status (ApiError.ofLookup e).code := by
  cases e <;> exact .unauthorized

theorem coded_of_groupFault {group : Option String} {e : ApiError} (h : groupFault group = some e) :
    Coded e.status e.code := by
  unfold groupFault at h
  split at h
  · rw [← Option.some.inj h]
    exact .validation
  · exact absurd h (by simp)

theorem garbled_reports_iff : Garbled r .reports ↔ ∃ message c rest, groupOf r.queryPairs = .error (refuseText message)
    ∧ message.toList = c :: rest ∧ c.isAlpha = true := by
  have hlength : Garbled r .reports ↔ 2 ≤ ((r.queryPairs.filter (·.1 == "group")).map Prod.snd).length := by
    rw [List.length_map]
    exact ⟨fun | .groups h => h, .groups⟩
  rw [hlength, groupOf]
  cases (r.queryPairs.filter (·.1 == "group")).map Prod.snd with
  | nil => simp
  | cons g gs =>
    cases gs with
    | nil => simp
    | cons g' gs => exact iff_of_true (by simp) ⟨_, 'F', _, rfl, rfl, by decide⟩

theorem answers_listReports (service : Export.Service) (user : Directory.User) :
    Answers r .reports (listReports service user r).value := by
  rw [listReports]
  by_cases hgarbled : Garbled r .reports
  · obtain ⟨message, c, rest, hgroup, hmessage, hc⟩ := garbled_reports_iff.mp hgarbled
    rw [hgroup]
    exact .garbled hgarbled hmessage hc rfl
  · cases hgroup : groupOf r.queryPairs with
    | error x =>
      refine absurd ?_ hgarbled
      unfold groupOf at hgroup
      split at hgroup
      · cases hgroup
      · cases hgroup
      · next hnil hone =>
        refine .groups ?_
        rw [← List.length_map (f := Prod.snd)]
        generalize (r.queryPairs.filter (·.1 == "group")).map Prod.snd = gs at hnil hone
        rcases gs with _ | ⟨g, _ | ⟨g', gs⟩⟩
        · exact absurd rfl hnil
        · exact absurd rfl (hone g)
        · simp
    | ok group =>
      cases hfault : groupFault group with
      | some e =>
        simp only [hfault]
        exact answers_reject hgarbled (coded_of_groupFault hfault)
      | none =>
        simp only [hfault, Trail.Traced.value_bind]
        cases (service.list group).value with
        | error e => exact answers_reject hgarbled (coded_ofExport e)
        | ok ds => exact .granted rfl

theorem answers_exportReport (service : Export.Service) (user : Directory.User) (moment : Moment) (segment : String) :
    Answers r (.report segment) (exportReport service user moment segment).value := by
  have hgarbled : Garbled r (.report segment) ↔ ∀ id : Int64, idOfSegment segment ≠ .ok id := by
    simp only [ne_eq, idOfSegment_eq_ok]
    exact ⟨fun | .segment h => h, .segment⟩
  rw [exportReport]
  cases hid : idOfSegment segment with
  | error x =>
    have hread : Garbled r (.report segment) := hgarbled.mpr fun id h => by simp [hid] at h
    unfold idOfSegment at hid
    split at hid
    · cases hid
      exact .garbled hread rfl (by decide) rfl
    · next text _ =>
      split at hid
      · cases hid
      · cases hid
        obtain ⟨rest, hmessage⟩ :
            ∃ rest, ("Invalid URL: Cannot parse `" ++ Text.quoted text ++ "` to a `i64`").toList = 'I' :: rest := by
          rw [String.toList_append, String.toList_append]
          exact ⟨_, rfl⟩
        exact .garbled hread hmessage (by decide) rfl
  | ok id =>
    have hread : ¬Garbled r (.report segment) := fun h => hgarbled.mp h id hid
    cases hcheck : Name.checkReportId id with
    | error f =>
      simp only [hcheck]
      exact answers_reject hread .validation
    | ok =>
      simp only [hcheck, Trail.Traced.value_bind]
      cases (service.start id user moment).value with
      | error e => exact answers_reject hread (coded_ofExport e)
      | ok offer => exact .granted rfl

theorem answers_protectedHandler (user : Directory.User) (hp : route.isProtected = true) :
    Answers r route (a.protectedHandler s user route r).value := by
  cases route with
  | reports => exact answers_listReports a.service user
  | report segment => exact answers_exportReport a.service user s.moment segment
  | health | ready | live | metrics => exact absurd hp (by simp [Route.isProtected])

/-- The directory vouches for whoever sends the request. -/
def Vouched (a : App) (r : Request) : Prop :=
  ∃ (token : String) (user : Directory.User), Presents r.headers token ∧ (a.lookUp token).value = .ok user

/-- A caller is answered by the handler, and anybody else is refused with an error. -/
theorem dispatch_cases (hread : r.isRead = true) (hroute : Route.ofPath r.path = some route)
    (hp : route.isProtected = true) : (Vouched a r ∧ Answers r route (a.dispatch s r).value)
      ∨ (¬Vouched a r ∧ ∃ e : ApiError, Coded e.status e.code ∧ (a.dispatch s r).value = .json e.status e.body) := by
  have hvalue := congrArg Trail.Traced.value (App.dispatch_of_protected (a := a) (s := s) hread hroute hp)
  rw [Trail.Traced.value_bind, value_requireUser] at hvalue
  have hvouched : Vouched a r ↔ ∃ token user, bearerToken r.headers = some token ∧ (a.lookUp token).value = .ok user := by
    simp only [Vouched, bearerToken_eq_some]
  rw [hvouched]
  cases htoken : bearerToken r.headers with
  | none =>
    rw [htoken] at hvalue
    exact .inr ⟨by simp, .missingToken, .unauthorized, hvalue.trans (value_reject _)⟩
  | some token =>
    rw [htoken] at hvalue
    cases hfound : (a.lookUp token).value with
    | error e =>
      rw [callerFound, hfound] at hvalue
      exact .inr ⟨by simp [hfound], .ofLookup e, coded_ofLookup e, hvalue.trans (value_reject _)⟩
    | ok user =>
      rw [callerFound, hfound] at hvalue
      refine .inl ⟨⟨token, user, rfl, hfound⟩, ?_⟩
      rw [hvalue]
      exact answers_protectedHandler user hp

/-! ## At the top -/

section Through

variable (hget : r.method = "GET") (hs : s.overdue = false)
include hget hs

theorem status_exchange_of_get (mode : Delivery.ReadMode) :
    (exchange a s mode r).value.response.status = (a.dispatch s r).value.status := by
  rw [(value_exchange a s mode r).1, App.value_respond, App.finished_status (Request.isRead_of_get hget), hs]
  rfl

theorem body_exchange_of_text {text : String} (h : (a.dispatch s r).value.body = .text text) :
    (exchange a s .toEnd r).value.body = some (Text.utf8 text) := by
  rw [(value_exchange a s .toEnd r).2]
  refine shownBody_text ?_
  rw [App.value_respond, App.finished_body a s hget hs, h]

/-- An error can be read whatever layers it passes. -/
theorem machineReadable_of_error {e : ApiError} (hcode : Coded e.status e.code)
    (h : (a.dispatch s r).value = .json e.status e.body) : MachineReadable (exchange a s .toEnd r).value := by
  refine ⟨e.code, Text.utf8 e.body.compact, ?_, ?_, tellsError_body e⟩
  · rw [status_exchange_of_get hget hs, h]
    exact hcode
  · exact body_exchange_of_text hget hs (by rw [h]; rfl)

theorem plainlyRefused_of_text {message : String} {c : Char} {rest : List Char} (hmessage : message.toList = c :: rest)
    (hc : c.isAlpha = true) (h : (a.dispatch s r).value = refuseText message) :
    PlainlyRefused (exchange a s .toEnd r).value := by
  constructor
  case status =>
    rw [status_exchange_of_get hget hs, h]
    rfl
  case kind =>
    have hopt := isOptions_of_isRead (Request.isRead_of_get hget)
    rw [(value_exchange a s .toEnd r).1, App.value_respond, all_finished_of_outer hopt hs (by decide),
      App.all_securityHeaders (by decide), h]
    rfl
  case sentence =>
    exact ⟨message, body_exchange_of_text hget hs (by rw [h]; rfl), not_document_obj hmessage hc⟩

end Through

theorem PlainlyRefused.not_machineReadable {x : Exchange} (h : PlainlyRefused x) : ¬MachineReadable x := by
  rintro ⟨code, bytes, -, hbody, _, _, _, _, _, hdocument, -⟩
  obtain ⟨text, htext, hnone⟩ := h.sentence
  obtain rfl := Option.some.inj (htext.symm.trans hbody)
  exact hnone _ hdocument

/--
**Which refusals of the report routes a program can read**: all, but those of requests that cannot be read themselves.
Only a caller whom the directory vouches for is refused so, as nothing is read for anybody else.
-/
theorem machineReadable_iff (hget : r.method = "GET") (hroute : Route.ofPath r.path = some route)
    (hp : route.isProtected = true) (hs : s.overdue = false)
    (hstatus : (exchange a s .toEnd r).value.response.status ≠ 200) :
    (MachineReadable (exchange a s .toEnd r).value ↔ ¬(Vouched a r ∧ Garbled r route))
      ∧ (Vouched a r → Garbled r route → PlainlyRefused (exchange a s .toEnd r).value) := by
  rw [status_exchange_of_get hget hs] at hstatus
  rcases dispatch_cases (a := a) (s := s) (Request.isRead_of_get hget) hroute hp with
    ⟨hvouched, hanswers⟩ | ⟨hnobody, e, hcode, he⟩
  · cases hanswers with
    | granted hgranted => exact absurd hgranted hstatus
    | refused hread hcode he =>
      exact ⟨iff_of_true (machineReadable_of_error hget hs hcode he) fun h => hread h.2, fun _ h => absurd h hread⟩
    | garbled hgarbled hmessage hc he =>
      have hplain := plainlyRefused_of_text hget hs hmessage hc he
      exact ⟨iff_of_false hplain.not_machineReadable fun h => h ⟨hvouched, hgarbled⟩, fun _ _ => hplain⟩
  · exact ⟨iff_of_true (machineReadable_of_error hget hs hcode he) fun h => hnobody h.1, fun h => absurd h hnobody⟩

/-- A request of the holder of the sample token for the report of a segment. -/
def askFor (segment : String) : Request :=
  ⟨"GET", "", "/api/v1/reports/" ++ segment, none, [("authorization", "Bearer t")]⟩

theorem idOfSegment_zero : idOfSegment "0" = .ok 0 := by decide +kernel

/-- There is no report zero, and a program is told. -/
theorem machineReadable_zero :
    (exchange sampleLibrary sampleSurroundings .toEnd (askFor "0")).value.response.status ≠ 200
      ∧ MachineReadable (exchange sampleLibrary sampleSurroundings .toEnd (askFor "0")).value := by
  have hstatus : (exchange sampleLibrary sampleSurroundings .toEnd (askFor "0")).value.response.status ≠ 200 := by
    rw [status_exchange_of_get rfl rfl]
    decide +kernel
  have hread : ¬Garbled (askFor "0") (.report "0") := fun | .segment h => h 0 (idOfSegment_eq_ok.mp idOfSegment_zero)
  exact ⟨hstatus, (machineReadable_iff rfl (by decide) rfl rfl hstatus).1.mpr fun h => hread h.2⟩

/-- A program that asks for a report by a word is told so in a sentence. -/
theorem not_machineReadable_word :
    ¬∀ (a : App) (s : Surroundings) (r : Request) (route : Route), r.method = "GET" →
      Route.ofPath r.path = some route → route.isProtected = true → s.overdue = false →
      (exchange a s .toEnd r).value.response.status ≠ 200 → MachineReadable (exchange a s .toEnd r).value := by
  intro h
  have hpresents : Presents (askFor "abc").headers "t" := bearerToken_eq_some.mp (by decide)
  have hgarbled : Garbled (askFor "abc") (.report "abc") := by
    refine .segment fun id hid => ?_
    have hnone : (idOfSegment "abc").toOption = none := by decide +kernel
    rw [idOfSegment_eq_ok.mpr hid] at hnone
    cases hnone
  have hstatus : (exchange sampleLibrary sampleSurroundings .toEnd (askFor "abc")).value.response.status ≠ 200 := by
    rw [status_exchange_of_get rfl rfl]
    decide +kernel
  have hroute : Route.ofPath (askFor "abc").path = some (.report "abc") := by decide
  exact ((machineReadable_iff rfl hroute rfl rfl hstatus).2 ⟨"t", _, hpresents, rfl⟩ hgarbled).not_machineReadable
    (h sampleLibrary sampleSurroundings (askFor "abc") _ rfl hroute rfl rfl hstatus)

end ReportServer.Api
