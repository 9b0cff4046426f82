import ReportServer.Net.Percent
import ReportServer.Proofs.Api.Gate
import ReportServer.Proofs.Delivery.Naming
import ReportServer.Proofs.Delivery.ToEnd
import ReportServer.Proofs.Text.Bytes
import ReportServer.Proofs.Traversal
import ReportServer.Store.Catalogue

/-!
# Every listed report can be downloaded from its address

A listing gives each report an address, and the address is asked for in another request. On the way from the one to
the other the id of the report is written out as a number, put behind a path, taken off the path again, decoded and
read, and then it is looked up. Nothing is lost on this way, for any id, so whoever follows an address comes to the
definition that was listed.

What is sent from there is the file that is made for the definition. Its headers are on the answer when it has
passed all layers, and its bytes are the body, provided that nobody compresses it and that it is read to its end.
-/

namespace ReportServer

/-! ## The store -/

namespace Store.Catalogue

variable {c : Catalogue} {d : Report.Definition}

theorem mem_of_mem_list {group : Option String} (h : d ∈ c.list group) : d ∈ c.definitions := by
  have hselect : d ∈ c.select group := List.mem_mergeSort.mp h
  cases group with
  | none => exact hselect
  | some g => exact (List.mem_filter.mp hselect).1

/-- Where no two definitions have the same id, what is found under an id is the definition that has it. -/
theorem find?_eq_some_iff (hids : (c.definitions.map (·.id)).Nodup) {id : Int64} :
    c.find? id = some d ↔ d ∈ c.definitions ∧ d.id = id :=
  find?_key_eq_some_iff hids

end Store.Catalogue

namespace Api

open Http (Request Response Route)
open Report (Artifact Definition)
open Trail (Call)

/-! ## The address -/

theorem decimal_toDigits (n : Nat) : decimal (Nat.toDigits 10 n) = n := by
  have hfold : decimal (Nat.toDigits 10 n) = Nat.ofDigitChars 10 (Nat.toDigits 10 n) 0 := by
    rw [decimal, Nat.ofDigits_eq_foldr, List.foldr_reverse, List.foldl_map, Nat.ofDigitChars]
    simp only [Nat.cast_id, Nat.add_comm]
  rw [hfold, Nat.ofDigitChars_ten_toDigits]

/-- A number that is written out is spelled. -/
theorem spells_toString (i : Int) : Spells (toString i) i := by
  have hdigits : ∀ n : Nat, ∀ c ∈ Nat.toDigits 10 n, c.isDigit = true := fun n c hc =>
    Nat.isDigit_of_mem_toDigits (by decide) (by decide) hc
  cases i with
  | ofNat n =>
      refine ⟨[], Nat.toDigits 10 n, String.toList_ofList, by simp, Nat.toDigits_ne_nil, hdigits n, ?_⟩
      simp [decimal_toDigits]
  | negSucc n =>
      refine ⟨['-'], Nat.toDigits 10 (n + 1), ?_, by simp, Nat.toDigits_ne_nil, hdigits (n + 1), ?_⟩
      · show ("-" ++ String.ofList (Nat.toDigits 10 (n + 1))).toList = _
        rw [String.toList_append, String.toList_ofList, String.toList_ofList]
      · rw [if_pos rfl, decimal_toDigits]
        rfl

variable {text : String} {i : Int}

/-- Where a number is spelled there are digits and perhaps a sign, so nothing that means something in an
address. -/
theorem Spells.notMem (h : Spells text i) {c : Char} (hdigit : c.isDigit = false) (hsign : c ∉ ['+', '-']) :
    c ∉ text.toList := by
  intro hc
  obtain ⟨sign, ds, hs, hsigns, -, hds, -⟩ := h
  rw [hs] at hc
  rcases List.mem_append.mp hc with hc | hc
  · simp only [List.mem_cons, List.not_mem_nil, or_false] at hsigns
    rcases hsigns with rfl | rfl | rfl
    · exact absurd hc (by simp)
    · exact hsign (List.mem_cons.mpr (Or.inl (List.mem_singleton.mp hc)))
    · exact hsign (List.mem_cons_of_mem _ hc)
  · rw [hds c hc] at hdigit
    exact absurd hdigit (by simp)

theorem Spells.ne_nil (h : Spells text i) : text.toList ≠ [] := by
  obtain ⟨sign, ds, hs, -, hne, -⟩ := h
  rw [hs]
  exact List.append_ne_nil_of_right_ne_nil sign hne

/-- A segment that spells an id names it: there is nothing in it to decode. -/
theorem Spells.names {id : Int64} (h : Spells text id.toInt) : Names text id := by
  have hpercent : ∀ b ∈ Text.utf8 text, b.toNat ≠ 0x25 := by
    intro b hb hb'
    obtain ⟨c, hc, hc'⟩ := (Text.exists_mem_utf8_iff (p := (· = 0x25)) fun n hn => by omega).mp ⟨b, hb, hb'⟩
    obtain rfl : c = '%' := Char.toNat_inj.mp hc'
    exact h.notMem (by decide) (by decide) hc
  refine ⟨text, ?_, h⟩
  rw [Net.percentDecoded, Net.percentDecode_of_forall_ne hpercent, Text.ofUtf8?_utf8]

/-- A path of one more segment leads to a report. -/
theorem ofPath_report {segment : String} (hne : segment.toList ≠ []) (hslash : '/' ∉ segment.toList) :
    Route.ofPath (Report.reportsPath ++ "/" ++ segment) = some (.report segment) := by
  have hlist : (Report.reportsPath ++ "/" ++ segment).toList = Route.reportPrefix ++ segment.toList :=
    String.toList_append
  -- none of the paths that are known as a whole goes on like this
  have hfixed : ∀ known ∈ Route.fixed, Route.reportPrefix.isPrefixOf known.1.toList = false := by decide
  have hfind : Route.fixed.find? (·.1 == Report.reportsPath ++ "/" ++ segment) = none := by
    rw [List.find?_eq_none]
    intro known hknown heq
    have hfront := hfixed known hknown
    rw [beq_iff_eq.mp heq, hlist] at hfront
    exact absurd hfront (by simp)
  have hsegment : Route.segmentOf (Report.reportsPath ++ "/" ++ segment) = some segment := by
    rw [Route.segmentOf, hlist, List.drop_left]
    simp [hne, hslash]
  rw [Route.ofPath, hfind, hsegment]
  rfl

/-- A target that is a path and nothing else is taken as it is. -/
theorem path_make {method target : String} {h : Http.Headers} (hhead : target.toList.head? = some '/')
    (hfragment : '#' ∉ target.toList) (hquery : '?' ∉ target.toList) :
    (Request.make method target h).path = target := by
  have hsplit : Request.splitPath target.toList = (target.toList, none) := by
    simp [Request.splitPath, takeWhile_of_notMem hfragment, takeWhile_of_notMem hquery]
  simp [Request.make, Request.splitTarget, hhead, hsplit]

/-- **The address of a report leads back to its id.** -/
theorem exists_segment_downloadUrl (d : Definition) (method : String) (h : Http.Headers) :
    ∃ segment : String, Route.ofPath (Request.make method d.downloadUrl h).path = some (.report segment)
      ∧ Names segment d.id := by
  have hspells := spells_toString d.id.toInt
  have hlist : d.downloadUrl.toList = Route.reportPrefix ++ (toString d.id.toInt).toList := String.toList_append
  have hnone : ∀ x : Char, x ∉ Route.reportPrefix → x.isDigit = false → x ∉ ['+', '-'] →
      x ∉ d.downloadUrl.toList := by
    intro x hfront hdigit hsign
    rw [hlist, List.mem_append]
    exact not_or.mpr ⟨hfront, hspells.notMem hdigit hsign⟩
  refine ⟨toString d.id.toInt, ?_, hspells.names⟩
  rw [path_make (by rw [hlist]; rfl) (hnone '#' (by decide) (by decide) (by decide))
    (hnone '?' (by decide) (by decide) (by decide))]
  exact ofPath_report hspells.ne_nil (hspells.notMem (by decide) (by decide))

/-! ## The answer -/

variable {a : App} {s : Surroundings} {r : Request} {route : Route} {user : Directory.User}

theorem shownBody_text {x : Response} {t : String} (h : x.body = .text t) :
    shownBody .toEnd x = some (Text.utf8 t) := by
  simp [shownBody, h]

theorem shownBody_stream {x : Response} {e : Export.InFlight} {bytes : List UInt8} (h : x.body = .stream e)
    (hc : x.isCompressed = false) (he : e.publication = .start bytes) : shownBody .toEnd x = some bytes := by
  simp [shownBody, h, hc, he, Delivery.bytes_read_toEnd]

/-- The handler of a listing answers with what the store lists. -/
theorem value_protectedHandler_listing {group : Option String} {ds : List Definition}
    (h : Asks r .reports (.listing group)) (hds : (a.service.collaborators.list group).value = .ok ds) :
    (a.protectedHandler s user .reports r).value = .json 200 (Report.Listing.ofDefinitions ds).toJson := by
  obtain ⟨hgroup, hfault⟩ := asks_listing_iff.mp h
  simp only [App.protectedHandler, listReports, hgroup, hfault, Export.Service.list, Trail.Traced.value_bind, hds]
  rfl

/-- The handler of a file that can be made answers with it: nothing that a report is called is in the way. -/
theorem exists_value_protectedHandler_file {segment : String} {d : Definition} {t : Table} {file : Artifact}
    (h : Asks r (.report segment) (.file d.id)) (hd : (a.service.resolve d.id).value = .ok d)
    (ht : (a.service.collaborators.execute d.query).value = .ok t)
    (hfile : d.encode a.service.pack t s.moment = .ok file) :
    ∃ e : Export.InFlight, e.publication = .start file.bytes
      ∧ (a.protectedHandler s user (.report segment) r).value
        = ⟨200, Delivery.headersOf file, .stream e⟩ := by
  obtain ⟨hid, hcheck⟩ := asks_file_iff.mp h
  have hsendable : Http.isHeaderValue file.disposition = true :=
    Delivery.isHeaderValue_of_isFileName (Delivery.filename_of_encode hfile ▸ d.isFileName_filename s.moment)
  obtain ⟨o, ho⟩ : ∃ o : Export.Offer, a.service.Starts d.id user s.moment d file o :=
    ⟨_, Export.Service.resolve_eq_ok.mp hd, ⟨t, ht, hfile⟩, hsendable, rfl⟩
  have hstart : (a.service.start d.id user s.moment).value = .ok o :=
    Export.Service.start_eq_ok.mpr ⟨d, file, ho⟩
  have hheaders : o.headers = Delivery.headersOf file := by rw [ho.offer]
  refine ⟨o.inFlight, by rw [ho.offer], ?_⟩
  simp only [App.protectedHandler, exportReport, hid, hcheck, Trail.Traced.value_bind, hstart]
  rw [← hheaders]
  rfl

/-- The answer to a caller whom the directory knows. -/
theorem response_exchange {v : Verdict} (hread : r.isRead = true) (hroute : Route.ofPath r.path = some route)
    (hp : route.isProtected = true) (hv : Judged a r route v) (hu : v.user? = some user)
    (mode : Delivery.ReadMode) : (exchange a s mode r).value.response
      = a.finished s r (a.protectedHandler s user route r).value := by
  have hvalue := App.value_dispatch (s := s) hread hroute hp hv
  rw [hu] at hvalue
  rw [(value_exchange a s mode r).1, App.value_respond, hvalue]

/-- A file passes the layers as the handler has sent it, and the caller reads all of it. -/
theorem exchange_file {e : Export.InFlight} {file : Artifact} (hget : r.method = "GET") (hs : s.overdue = false)
    (hidentity : Http.prefersGzip r.headers = false) (he : e.publication = .start file.bytes)
    (hresponse : (exchange a s .toEnd r).value.response
      = a.finished s r ⟨200, Delivery.headersOf file, .stream e⟩) :
    (exchange a s .toEnd r).value.response.status = 200
      ∧ (exchange a s .toEnd r).value.body = some file.bytes
      ∧ (exchange a s .toEnd r).value.response.headers.all "content-length" = [toString file.bytes.length]
      ∧ (exchange a s .toEnd r).value.response.headers.all "content-type" = [file.contentType] := by
  have hall : ∀ {name : String}, name ∉ App.layerHeaders →
      (exchange a s .toEnd r).value.response.headers.all name = (Delivery.headersOf file).all name := by
    intro name hname
    rw [hresponse]
    exact App.all_finished a s hget hs hidentity hname _
  -- neither the file nor a layer says that the body is compressed
  have hplain : (exchange a s .toEnd r).value.response.isCompressed = false :=
    Http.Headers.contains_eq_false_iff.mpr ((hall (by decide)).trans rfl)
  have hstream : (exchange a s .toEnd r).value.response.body = .stream e := by
    rw [hresponse, App.finished_body a s hget hs]
  refine ⟨?_, ?_, (hall (by decide)).trans rfl, (hall (by decide)).trans rfl⟩
  · rw [hresponse, App.finished_status (Request.isRead_of_get hget), hs]
    rfl
  · obtain ⟨hrespond, hbody⟩ := value_exchange a s .toEnd r
    rw [hbody, ← hrespond]
    exact shownBody_stream hstream hplain he

/-- What a request in time calls, and at the end perhaps the recorder. -/
theorem calls_exchange (hread : r.isRead = true) (hs : s.overdue = false) (mode : Delivery.ReadMode) :
    ∃ after : List Call, Trail.calls (exchange a s mode r).trail = Trail.calls (a.dispatch s r).trail ++ after
      ∧ (after = [] ∨ ∃ e : Export.InFlight, (exchange a s mode r).value.response.export? = some e
        ∧ after = .record (e.tracking s.moment)
          :: Trail.calls (a.service.collaborators.record (e.tracking s.moment)).trail) := by
  have hclosing : Trail.calls (closeRequest s r).trail = [] := by
    rw [closeRequest]
    split <;> rfl
  have hanswer : Trail.calls (a.respond s r).trail = Trail.calls (a.dispatch s r).trail :=
    (App.calls_respond hread).2 hs
  refine ⟨_, by rw [exchange, Trail.Traced.trail_bind, Trail.calls_append, hanswer], ?_⟩
  rw [(value_exchange a s mode r).1]
  exact calls_consume a.service.collaborators.record s.moment (bodyKeepsOpen s r) hclosing mode _

/-! ## At the top -/

/-- `Keeps service c`: the store of the service is the catalogue `c`. -/
structure Keeps (service : Export.Service) (c : Store.Catalogue) : Prop where
  find : ∀ id : Int64, service.collaborators.find id = pure (.ok (c.find? id))
  list : ∀ group : Option String, service.collaborators.list group = pure (.ok (c.list group))

/-- `Format extension listed type`: how the format of a report is listed, and the media type of its files. -/
inductive Format : Report.Extension → String → String → Prop where
  | csv : Format .csv "csv" "text/csv; charset=utf-8"
  | xlsx : Format .xlsx "xlsx" "application/vnd.openxmlformats-officedocument.spreadsheetml.sheet"

theorem format_contentType (extension : Report.Extension) : Format extension extension.name extension.contentType := by
  cases extension
  · exact .csv
  · exact .xlsx

/-- `Downloads a s r token d type`: the request `r` with this token is for the file of `d`, and brings it as this type. -/
structure Downloads (a : App) (s : Surroundings) (r : Request) (token : String) (d : Definition) (type : String) :
    Prop where
  /-- The path is read as the id of the report, -/
  named : ∃ segment : String, Route.ofPath r.path = some (.report segment) ∧ idOfSegment segment = .ok d.id
  /-- and the report that is found under it is `d`. -/
  resolved : (a.service.resolve d.id).value = .ok d
  /-- The directory is asked for the token, the store for the id and the executor for what the query comes to,
  each of them once, and nobody else is called but the recorder at the end. -/
  calls : ∃ after : List Call, Trail.calls (exchange a s .toEnd r).trail = callerCalls a.lookUp (some token)
      ++ (.find d.id :: .execute d.query :: Trail.calls (a.service.collaborators.execute d.query).trail) ++ after
    ∧ (after = [] ∨ ∃ entry : Report.Tracking,
      after = .record entry :: Trail.calls (a.service.collaborators.record entry).trail)
  /-- If the query comes to a table that can be encoded, and nobody asks for it compressed, the answer is the file:
  its bytes, their number, and the media type. -/
  answered : ∀ (t : Table) (file : Artifact), (a.service.collaborators.execute d.query).value = .ok t →
    d.encode a.service.pack t s.moment = .ok file → Http.prefersGzip r.headers = false →
      (exchange a s .toEnd r).value.response.status = 200
      ∧ (exchange a s .toEnd r).value.body = some file.bytes
      ∧ (exchange a s .toEnd r).value.response.headers.all "content-length" = [toString file.bytes.length]
      ∧ (exchange a s .toEnd r).value.response.headers.all "content-type" = [type]

/-- `Leads a d entry`: an entry of a listing shows the id, the name, the format and the address of `d`, and whoever asks
for that address gets the file of `d`, of the type that goes with the listed format. If the id is not valid the request
is refused, and neither store nor executor hear of it. -/
def Leads (a : App) (d : Definition) (entry : Json.Value) : Prop :=
  ∃ extension type url : String, Format d.extension extension type
    ∧ url = "/api/v1/reports/" ++ toString d.id.toInt
    ∧ entry = .obj [("id", .int d.id.toInt), ("name", .str d.name), ("fileExtension", .str extension),
        ("downloadUrl", .str url)]
    ∧ ∀ (s : Surroundings) (h : Http.Headers) (token : String) (user : Directory.User), s.overdue = false →
      Presents (Request.make "GET" url h).headers token → (a.lookUp token).value = .ok user →
        (0 < d.id → Downloads a s (Request.make "GET" url h) token d type)
        ∧ (d.id ≤ 0 → ∀ mode : Delivery.ReadMode,
          (exchange a s mode (Request.make "GET" url h)).value.response.status = 400
          ∧ Trail.calls (exchange a s mode (Request.make "GET" url h)).trail = callerCalls a.lookUp (some token))

section Download

variable {d : Definition} {segment token : String} (hget : r.method = "GET") (hs : s.overdue = false)
  (hroute : Route.ofPath r.path = some (.report segment))
  (hnames : Names segment d.id) (hpresents : Presents r.headers token) (huser : (a.lookUp token).value = .ok user)
include hget hs hroute hnames hpresents huser

/-- A report with a valid id can be downloaded. -/
theorem downloads_of_pos (hid : 0 < d.id) (hfind : a.service.collaborators.find d.id = pure (.ok (some d))) :
    Downloads a s r token d d.extension.contentType := by
  have hread := Request.isRead_of_get hget
  have hasks : Asks r (.report segment) (.file d.id) := .file hnames hid
  have hv : Judged a r (.report segment) (.admitted token user (.file d.id)) := .admitted hpresents huser hasks
  have hresponse := response_exchange (s := s) hread hroute rfl hv rfl .toEnd
  have hresolved : (a.service.resolve d.id).value = .ok d := Export.Service.resolve_eq_ok.mpr (by rw [hfind]; rfl)
  constructor
  case named => exact ⟨segment, hroute, idOfSegment_eq_ok.mpr hnames⟩
  case resolved => exact hresolved
  case calls =>
    obtain ⟨after, hcalls, hafter⟩ := calls_exchange (a := a) hread hs .toEnd
    have hstart : a.service.startCalls d.id = .find d.id :: .execute d.query
        :: Trail.calls (a.service.collaborators.execute d.query).trail := by
      rw [Export.Service.startCalls, hfind]
      rfl
    refine ⟨after, ?_, ?_⟩
    · rw [hcalls, App.calls_dispatch hread hroute rfl hv, ← hstart]
      rfl
    · rcases hafter with hnone | ⟨e, -, he⟩
      · exact Or.inl hnone
      · exact Or.inr ⟨_, he⟩
  case answered =>
    intro t file ht hfile hidentity
    obtain ⟨e, he, hanswer⟩ := exists_value_protectedHandler_file hasks hresolved ht hfile
    rw [hanswer] at hresponse
    obtain ⟨hstatus, hbody, hlength, htype⟩ := exchange_file hget hs hidentity he hresponse
    refine ⟨hstatus, hbody, hlength, ?_⟩
    rw [htype, Artifact.contentType, Export.Service.extension_of_encode hfile]

/-- One without cannot: the id is refused before anybody is asked for the report. -/
theorem refused_of_not_pos (hid : d.id ≤ 0) (mode : Delivery.ReadMode) :
    (exchange a s mode r).value.response.status = 400
      ∧ Trail.calls (exchange a s mode r).trail = callerCalls a.lookUp (some token) := by
  have hread := Request.isRead_of_get hget
  have hnone : ∀ wish : Wish, ¬ Asks r (.report segment) wish := by
    rintro _ (_ | ⟨hother, hpos⟩)
    have hsame := (idOfSegment_eq_ok.mpr hother).symm.trans (idOfSegment_eq_ok.mpr hnames)
    rw [Except.ok.inj hsame] at hpos
    exact Int64.not_lt.mpr hid hpos
  have hv : Judged a r (.report segment) (.malformed token user) := .malformed hpresents huser hnone
  have hrefuses := refuses_protectedHandler (a := a) (s := s) user rfl hnone
  have hresponse := response_exchange (s := s) hread hroute rfl hv rfl mode
  constructor
  · rw [hresponse, App.finished_status hread, hrefuses.status, hs]
    rfl
  · obtain ⟨after, hcalls, hafter⟩ := calls_exchange (a := a) hread hs mode
    have hnothing : (exchange a s mode r).value.response.export? = none := by
      rw [hresponse, App.finished_export hread, hrefuses.body]
      split <;> rfl
    obtain rfl : after = [] := by
      rcases hafter with hafter | ⟨e, he, -⟩
      · exact hafter
      · rw [hnothing] at he
        exact absurd he (by simp)
    rw [hcalls, App.calls_dispatch hread hroute rfl hv]
    simp [Verdict.handlerCalls, Verdict.token?]

end Download

/-- What a listing shows of a definition of the store leads to it. -/
theorem leads_summary {d : Definition} (hfind : a.service.collaborators.find d.id = pure (.ok (some d))) :
    Leads a d (Report.Summary.ofDefinition d).toJson := by
  refine ⟨d.extension.name, d.extension.contentType, d.downloadUrl, format_contentType d.extension, rfl, rfl,
    fun s h token user hs hpresents huser => ?_⟩
  obtain ⟨segment, hsegment, hnames⟩ := exists_segment_downloadUrl d "GET" h
  exact ⟨fun hid => downloads_of_pos rfl hs hsegment hnames hpresents huser hid hfind,
    fun hid mode => refused_of_not_pos rfl hs hsegment hnames hpresents huser hid mode⟩

/--
**Every listed report can be downloaded from its address.** Take any server whose store is a catalogue without
doubled ids, and a caller whom the directory knows. A listing of all reports, or of those of a group, says how many
there are and shows each of them in an entry. Whoever asks for the address in an entry comes back to the definition
that is shown there. If its id is valid the file is made from the one query of that definition and is handed out
whole; if it is not, the request is refused, and neither store nor executor hear of it.
-/
theorem downloadable_from_listing {c : Store.Catalogue} {group : Option String} {token : String}
    (hstore : Keeps a.service c) (hids : (c.definitions.map (·.id)).Nodup) (hget : r.method = "GET")
    (hpath : r.path = "/api/v1/reports") (hasks : Asks r .reports (.listing group))
    (hpresents : Presents r.headers token) (huser : (a.lookUp token).value = .ok user)
    (hs : s.overdue = false) :
    (exchange a s .toEnd r).value.response.status = 200 ∧ ∃ entries : List Json.Value,
      (exchange a s .toEnd r).value.body
          = some (Text.utf8 (Json.Value.obj [("data", .arr entries), ("total", .int entries.length)]).compact)
        ∧ List.Forall₂ (fun d entry => d ∈ c.definitions ∧ Leads a d entry) (c.list group) entries := by
  have hread := Request.isRead_of_get hget
  have hroute : Route.ofPath r.path = some .reports := by rw [hpath]; decide
  have hv : Judged a r .reports (.admitted token user (.listing group)) := .admitted hpresents huser hasks
  have hresponse := response_exchange (s := s) hread hroute rfl hv rfl .toEnd
  rw [value_protectedHandler_listing hasks (by rw [hstore.list]; rfl)] at hresponse
  refine ⟨?_, (c.list group).map fun d => (Report.Summary.ofDefinition d).toJson, ?_, ?_⟩
  · rw [hresponse, App.finished_status hread, hs]
    rfl
  · obtain ⟨hrespond, hbody⟩ := value_exchange a s .toEnd r
    rw [hbody, ← hrespond, hresponse]
    refine (shownBody_text (App.finished_body a s hget hs _)).trans ?_
    simp only [Report.Listing.toJson, Report.Listing.ofDefinitions, Report.Listing.total, List.map_map,
      List.length_map, Function.comp_def]
  · refine List.forall₂_map_right_iff.mpr (List.forall₂_same.mpr fun d hd => ?_)
    have hmem := Store.Catalogue.mem_of_mem_list hd
    exact ⟨hmem, leads_summary (by rw [hstore.find, (Store.Catalogue.find?_eq_some_iff hids).mpr ⟨hmem, rfl⟩])⟩

/-- A report of an id. -/
def sampleReport (id : Int64) : Definition :=
  ⟨id, "r", "SELECT 1 AS n", .csv, 1, none, ⟨⟨2024, 2, 3⟩, 0, 0, 0, 0⟩⟩

/-- A store in which one id is not valid. -/
def sampleStock : Store.Catalogue := .ofDefinitions [sampleReport 7, sampleReport (-1)]

/-- What every query of the sample library comes to. -/
def sampleResult : Table := ⟨[⟨"n", .integer⟩], [[.integer 1]], by decide⟩

/-- A server with that store. The one token is `t`. -/
def sampleLibrary : App where
  service :=
    { collaborators :=
        { find := fun id => pure (.ok (sampleStock.find? id))
          list := fun group => pure (.ok (sampleStock.list group))
          execute := fun _ => pure (.ok sampleResult)
          record := fun _ => pure (.ok ()) }
      outputBase := "out"
      pack := fun _ => [] }
  lookUp := fun token =>
    if token = "t" then pure (.ok ⟨"1", "Ann", none, "ann"⟩) else pure (.error .userNotFound)
  provider := "graph"
  hsts := true
  cors := .anyone

/-- Of the two reports of the sample library the one is downloaded and the other refused. -/
theorem downloadable_from_listing_library :
    let listing := Request.make "GET" "/api/v1/reports" [("Authorization", "Bearer t")]
    let file := Request.make "GET" "/api/v1/reports/7" [("Authorization", "Bearer t")]
    let other := Request.make "GET" "/api/v1/reports/-1" [("Authorization", "Bearer t")]
    (exchange sampleLibrary sampleSurroundings .toEnd listing).value.body = some (Text.utf8
        ("\x7b\"data\":[" ++
          "\x7b\"id\":-1,\"name\":\"r\",\"fileExtension\":\"csv\",\"downloadUrl\":\"/api/v1/reports/-1\"\x7d," ++
          "\x7b\"id\":7,\"name\":\"r\",\"fileExtension\":\"csv\",\"downloadUrl\":\"/api/v1/reports/7\"\x7d" ++
          "],\"total\":2\x7d"))
      ∧ (exchange sampleLibrary sampleSurroundings .toEnd file).value.body = some (Text.utf8 "n\n1\n")
      ∧ (exchange sampleLibrary sampleSurroundings .toEnd file).value.response.headers.all "content-length" = ["4"]
      ∧ (exchange sampleLibrary sampleSurroundings .toEnd file).value.response.headers.all "content-type"
        = ["text/csv; charset=utf-8"]
      ∧ (exchange sampleLibrary sampleSurroundings .toEnd other).value.response.status = 400 := by
  intro listing file other
  have hmake : listing = ⟨"GET", "", "/api/v1/reports", none, [("authorization", "Bearer t")]⟩ := by decide +kernel
  have hheaders : ∀ target : String,
      (Request.make "GET" target [("Authorization", "Bearer t")]).headers = [("authorization", "Bearer t")] := fun _ =>
    congrArg (fun name => [(name, "Bearer t")]) (by decide +kernel)
  have htoken : Presents [("authorization", "Bearer t")] "t" := bearerToken_eq_some.mp (by decide)
  have hpresents : ∀ target : String,
      Presents (Request.make "GET" target [("Authorization", "Bearer t")]).headers "t" := fun target => by
    rwa [hheaders target]
  have hasks : Asks listing .reports (.listing none) := .listing (by rw [hmake]; decide) (by simp)
  obtain ⟨-, entries, hbody, hentries⟩ := downloadable_from_listing (a := sampleLibrary) (s := sampleSurroundings)
    (c := sampleStock) ⟨fun _ => rfl, fun _ => rfl⟩ (by decide) rfl (by rw [hmake]) hasks (hpresents _) rfl rfl
  -- the entries are sorted by name and then by id
  have hlist : sampleStock.list none = [sampleReport (-1), sampleReport 7] := by
    have hbefore : Store.listedBefore (sampleReport 7) (sampleReport (-1)) = false := by decide +kernel
    simp [Store.Catalogue.list, Store.Catalogue.select, sampleStock, Store.Catalogue.ofDefinitions, List.mergeSort,
      hbefore]
  rw [hlist] at hentries
  obtain ⟨refused, _, ⟨-, hrefused⟩, hrest, rfl⟩ := List.forall₂_cons_left_iff.mp hentries
  obtain ⟨shown, _, ⟨-, hshown⟩, hnil, rfl⟩ := List.forall₂_cons_left_iff.mp hrest
  obtain rfl := List.forall₂_nil_left_iff.mp hnil
  obtain ⟨_, _, _, hformat, rfl, rfl, hother⟩ := hrefused
  obtain ⟨_, _, _, hformat', rfl, rfl, hfile⟩ := hshown
  cases hformat
  cases hformat'
  have hdownloads := (hfile sampleSurroundings [("Authorization", "Bearer t")] "t" _ rfl (hpresents _) rfl).1
    (by decide)
  have hrefused := (hother sampleSurroundings [("Authorization", "Bearer t")] "t" _ rfl (hpresents _) rfl).2
    (by decide) .toEnd
  have hbytes : Text.utf8 (Csv.write sampleResult) = Text.utf8 "n\n1\n" := by decide +kernel
  obtain ⟨-, hcontent, hlength, htype⟩ := hdownloads.answered sampleResult _ rfl rfl (by decide +kernel)
  rw [hbytes] at hcontent hlength
  exact ⟨hbody.trans (by decide +kernel), hcontent, hlength.trans (by decide +kernel), htype, hrefused.1⟩

end Api

end ReportServer
