import ReportServer.Proofs.Api.Envelope
import ReportServer.Proofs.Settings.Starting

/-!
# Which sites are let in

A list of origins lets its entries in and nobody else, and an answer says so by naming the origin that its request
comes from. Only an empty list lets everybody in, so it matters that a list is looked at before the entries that cannot
be sent as a header are left out of it: a list of nothing but such entries is not empty, and lets nobody in.

The name is put on by one layer, to answers that have none. Only routing lies further outside, and it does not touch it.
-/

namespace ReportServer.Api

open Http (CorsPolicy Headers Request Response)

/-- The header that names the origin that is let in. -/
def originName : String := "access-control-allow-origin"

variable {a : App} {s : Surroundings} {r : Request}

/-! ## One layer puts the header on -/

theorem all_originHeader (p : CorsPolicy) (h : Headers) :
    (p.originHeader h).all originName = (p.allowed (h.first? "origin")).toList := by
  rw [CorsPolicy.originHeader]
  cases p.allowed (h.first? "origin") <;> rfl

theorem all_headers_cors (p : CorsPolicy) (h : Headers) :
    (p.headers h).all originName = (p.allowed (h.first? "origin")).toList :=
  -- the header before it is another one
  all_originHeader p h

/-- Answers that name no origin before leave the server with the origin that its policy lets in. This holds of requests
that only ask what they may do and of those that take too long as well. -/
theorem all_originName_finished {x : Response} (hx : x.headers.all originName = []) :
    (a.finished s r x).headers.all originName = (a.cors.allowed (r.headers.first? "origin")).toList := by
  have hhandled : (a.handled s r x).headers.all originName = [] := by
    rw [App.handled]
    split
    · rfl
    · rw [App.all_compressed_of_notMem (by decide), App.all_securityHeaders_of_common (by decide), hx]
  have hanswered : (a.answered s r x).headers.all originName
      = (a.cors.allowed (r.headers.first? "origin")).toList := by
    rw [App.answered]
    split
    · rw [CorsPolicy.preflight, Headers.all_append, all_headers_cors]
      exact List.append_nil _
    · show Headers.all ((a.handled s r x).headers.set "x-request-id" (App.idOf s.freshId r) ++ _) originName = _
      rw [Headers.all_append, Headers.all_set_of_ne (by decide), hhandled, List.nil_append, all_headers_cors]
  rw [App.finished, ← hanswered]
  split
  · rfl
  · split
    · rfl
    · exact Headers.all_set_of_ne (by decide)

/-- The origin that an answer names is the one that the policy lets in. -/
theorem all_originName_exchange (mode : Delivery.ReadMode) :
    (exchange a s mode r).value.response.headers.all originName
      = (a.cors.allowed (r.headers.first? "origin")).toList := by
  rw [(value_exchange a s mode r).1, App.value_respond,
    all_originName_finished (isPlain_dispatch.all_eq_nil (by decide))]

/-! ## Which origins are let in -/

/-- Whether an entry can be sent as a header: it holds no control character but the tab. -/
def Sendable (entry : String) : Prop := ∀ c ∈ entry.toList, c = '\t' ∨ ' ' ≤ c ∧ c ≠ '\x7f'

theorem isHeaderValue_iff {entry : String} : Http.isHeaderValue entry = true ↔ Sendable entry := Http.isHeaderValue_iff

/-- `NamesOrigin origins h names`: of a list of origins and the headers of a request, the answer names the origin of the
request if that is an entry that can be sent, and otherwise it names none. -/
inductive NamesOrigin (origins : List String) (h : Headers) : List String → Prop
  | letIn {origin : String} : h.first? "origin" = some origin → origin ∈ origins → Sendable origin →
    NamesOrigin origins h [origin]
  | shutOut : (∀ origin, h.first? "origin" = some origin → origin ∈ origins → ¬Sendable origin) →
    NamesOrigin origins h []

/-- What is named depends on the entries that can be sent, and on nothing else of the list. -/
theorem NamesOrigin.unique {origins origins' : List String} {h : Headers} {names names' : List String}
    (hsame : ∀ entry, Sendable entry → (entry ∈ origins ↔ entry ∈ origins')) (hnames : NamesOrigin origins h names)
    (hnames' : NamesOrigin origins' h names') : names = names' := by
  cases hnames with
  | @letIn origin hfirst hmem hsendable =>
    cases hnames' with
    | letIn hfirst' => rw [Option.some.inj (hfirst.symm.trans hfirst')]
    | shutOut hnone => exact absurd hsendable (hnone origin hfirst ((hsame origin hsendable).mp hmem))
  | shutOut hnone =>
    cases hnames' with
    | @letIn origin hfirst hmem hsendable =>
      exact absurd hsendable (hnone origin hfirst ((hsame origin hsendable).mpr hmem))
    | shutOut => rfl

/-- The wildcard is not among the entries, so a list of them becomes a policy of those that can be sent. -/
theorem ofList_eq_some {origins : List String} (hne : origins ≠ []) (hw : CorsPolicy.wildcard ∉ origins) :
    CorsPolicy.ofList origins = some (.only (origins.filter Http.isHeaderValue)) := by
  have hw' : CorsPolicy.wildcard ∉ origins.filter Http.isHeaderValue := fun hmem => hw (List.mem_of_mem_filter hmem)
  rw [CorsPolicy.ofList, if_neg (by simpa using hne)]
  exact if_neg hw'

theorem namesOrigin_allowed (origins : List String) (h : Headers) :
    NamesOrigin origins h ((CorsPolicy.only (origins.filter Http.isHeaderValue)).allowed (h.first? "origin")).toList := by
  have hmem : ∀ origin, origin ∈ origins.filter Http.isHeaderValue ↔ origin ∈ origins ∧ Sendable origin := fun origin => by
    rw [List.mem_filter, isHeaderValue_iff]
  cases hfirst : h.first? "origin" with
  | none => exact .shutOut fun origin horigin => absurd (hfirst.symm.trans horigin) (by simp)
  | some origin =>
    by_cases hin : origin ∈ origins.filter Http.isHeaderValue
    · have hallowed : (CorsPolicy.only (origins.filter Http.isHeaderValue)).allowed (some origin) = some origin := by
        simp [CorsPolicy.allowed, Option.filter, hin]
      rw [hallowed]
      exact .letIn hfirst ((hmem origin).mp hin).1 ((hmem origin).mp hin).2
    · have hallowed : (CorsPolicy.only (origins.filter Http.isHeaderValue)).allowed (some origin) = none := by
        simp only [CorsPolicy.allowed, Option.filter, hin, decide_false, Bool.false_eq_true, if_false]
      rw [hallowed]
      refine .shutOut fun other hother hentry hsendable => hin ?_
      obtain rfl := Option.some.inj (hfirst.symm.trans hother)
      exact (hmem origin).mpr ⟨hentry, hsendable⟩

/-! ## At the top -/

/-- The origins that the answer to a request names. -/
def namedOrigins (a : App) (s : Surroundings) (mode : Delivery.ReadMode) (r : Request) : List String :=
  (exchange a s mode r).value.response.headers.all originName

/--
**A list of origins fails closed.** Whatever stands in it besides the wildcard, there is a server for it, and whatever
is asked of that server, also what it allows, and whatever comes of it:
-/
structure OriginsFailClosed (origins : List String) (a : App) : Prop where
  /-- a list lets in its entries that can be sent, and nobody else, -/
  listed : origins ≠ [] → ∀ (s : Surroundings) (mode : Delivery.ReadMode) (r : Request),
    NamesOrigin origins r.headers (namedOrigins a s mode r)
  /-- so a list of nothing but others lets nobody in, -/
  unsendable : origins ≠ [] → (∀ entry ∈ origins, ¬Sendable entry) →
    ∀ (s : Surroundings) (mode : Delivery.ReadMode) (r : Request), namedOrigins a s mode r = []
  /-- and of two lists with the same entries that can be sent, in any order and as often as you like, neither lets in
  whom the other does not. -/
  others : origins ≠ [] → ∀ (settings : Settings) (service : Export.Service) (lookUp : LookUp) (b : App),
    settings.security.corsOrigins ≠ [] → CorsPolicy.wildcard ∉ settings.security.corsOrigins →
    (∀ entry, Sendable entry → (entry ∈ origins ↔ entry ∈ settings.security.corsOrigins)) →
    App.ofSettings settings service lookUp = some b →
    ∀ (s t : Surroundings) (mode mode' : Delivery.ReadMode) (r : Request),
      namedOrigins a s mode r = namedOrigins b t mode' r
  /-- Everybody is let in exactly if the list is empty. -/
  anyone : ∀ (s : Surroundings) (mode : Delivery.ReadMode) (r : Request),
    namedOrigins a s mode r = [CorsPolicy.wildcard] ↔ origins = []

/-- What the answers of a server name whose settings hold a list of origins. -/
theorem namesOrigin_namedOrigins {settings : Settings} {service : Export.Service} {lookUp : LookUp}
    (hne : settings.security.corsOrigins ≠ []) (hw : CorsPolicy.wildcard ∉ settings.security.corsOrigins)
    (hset : App.ofSettings settings service lookUp = some a) (s : Surroundings) (mode : Delivery.ReadMode)
    (r : Request) : NamesOrigin settings.security.corsOrigins r.headers (namedOrigins a s mode r) := by
  rw [App.ofSettings, ofList_eq_some hne hw, Option.map_some] at hset
  obtain rfl := Option.some.inj hset
  rw [namedOrigins, all_originName_exchange]
  exact namesOrigin_allowed _ _

theorem originsFailClosed {settings : Settings} (hw : CorsPolicy.wildcard ∉ settings.security.corsOrigins)
    (service : Export.Service) (lookUp : LookUp) : ∃ a, App.ofSettings settings service lookUp = some a
      ∧ OriginsFailClosed settings.security.corsOrigins a := by
  obtain ⟨a, hset⟩ := Settings.ofSettings_isSome hw service lookUp
  refine ⟨a, hset, ?_⟩
  constructor
  case listed => exact fun hne => namesOrigin_namedOrigins hne hw hset
  case unsendable =>
    intro hne hnone s mode r
    cases hnames : namedOrigins a s mode r with
    | nil => rfl
    | cons origin rest =>
      have hin := namesOrigin_namedOrigins hne hw hset s mode r
      rw [hnames] at hin
      cases hin with
      | letIn hfirst hmem hsendable => exact absurd hsendable (hnone origin hmem)
  case others =>
    intro hne settings' service' lookUp' b hne' hw' hsame hset' s t mode mode' r
    exact (namesOrigin_namedOrigins hne hw hset s mode r).unique hsame
      (namesOrigin_namedOrigins hne' hw' hset' t mode' r)
  case anyone =>
    intro s mode r
    constructor
    · intro hnames
      by_contra hne
      have hin := namesOrigin_namedOrigins hne hw hset s mode r
      rw [hnames] at hin
      cases hin with
      | letIn _ hmem => exact hw hmem
    · intro hnil
      rw [App.ofSettings, hnil] at hset
      obtain rfl := Option.some.inj hset
      rw [namedOrigins, all_originName_exchange]
      rfl

/-- A list of an entry with a line end in it, and of the same origin without it, lets that origin in and no other. -/
theorem originsFailClosed_lineEnd :
    let settings : Settings := ⟨.unset, .unset "postgres://localhost/reports", .unset,
      ⟨["https://a.example\n", "https://b.example", "https://b.example"], false⟩, .unset, .unset⟩
    let asks (origin : String) : Request := ⟨"OPTIONS", "", "/api/v1/reports", none, [("origin", origin)]⟩
    ∃ a, App.ofSettings settings sampleLibrary.service sampleLibrary.lookUp = some a
      ∧ namedOrigins a sampleSurroundings .toEnd (asks "https://b.example") = ["https://b.example"]
      ∧ namedOrigins a sampleSurroundings .toEnd (asks "https://a.example") = [] := by
  intro settings asks
  have hw : CorsPolicy.wildcard ∉ settings.security.corsOrigins := by decide
  obtain ⟨a, hset, hclosed⟩ := originsFailClosed hw sampleLibrary.service sampleLibrary.lookUp
  have hlisted := hclosed.listed (by decide) sampleSurroundings .toEnd
  refine ⟨a, hset, (hlisted (asks "https://b.example")).unique (fun _ _ => Iff.rfl) ?_,
    (hlisted (asks "https://a.example")).unique (fun _ _ => Iff.rfl) ?_⟩
  · exact .letIn rfl (by decide) (isHeaderValue_iff.mp (by decide))
  · refine .shutOut fun origin horigin hmem => ?_
    obtain rfl := Option.some.inj horigin
    exact absurd hmem (by decide)

end ReportServer.Api
