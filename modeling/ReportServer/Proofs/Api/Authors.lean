import ReportServer.Api.History
import ReportServer.Directory.Graph
import ReportServer.Proofs.Api.Gate
import ReportServer.Proofs.Traversal

/-!
# Whom a tracking record names

A tracking record says who made the export: the caller whom the directory vouched for, by the mail address, or by the
principal name if there is no address. The remote directory may leave out either of them, or send nothing but an empty
text, and one of them is enough. But none is asked for. A caller whom the directory describes by neither is let in like
any other, and the records of that caller's exports name nobody.
-/

namespace ReportServer

/-! ## Names -/

namespace Directory.Graph

/-- `p.Names name`: the profile gives this name, which is its mail address, or its principal name if it has none. -/
inductive Profile.Names (p : Profile) : String → Prop where
  | mail {address : String} : p.mail = some address → address ≠ "" → p.Names address
  | principal {name : String} : (∀ address : String, p.mail = some address → address = "") →
    p.principalName = some name → name ≠ "" → p.Names name

theorem nonEmpty_eq_some_iff {o : Option String} {s : String} : nonEmpty o = some s ↔ o = some s ∧ s ≠ "" := by
  simp [nonEmpty, Option.filter_eq_some_iff]

theorem nonEmpty_eq_none_iff {o : Option String} : nonEmpty o = none ↔ ∀ s : String, o = some s → s = "" := by
  simp [nonEmpty, Option.filter_eq_none_iff]

/-- The user of a profile goes by the mail address, or else by the principal name. -/
theorem Profile.identity_user (p : Profile) :
    p.user.identity = (nonEmpty p.mail).getD (p.principalName.getD "") := by
  have hemail : p.user.email = nonEmpty p.mail := rfl
  rw [User.identity, hemail]
  cases hmail : nonEmpty p.mail with
  | none => rfl
  | some address =>
      have hne : address ≠ "" := (nonEmpty_eq_some_iff.mp hmail).2
      simp [hne]

/-- **The identity of a user is the name that the profile gives**, and empty if it gives none. -/
theorem Profile.identity_user_iff {p : Profile} {name : String} :
    p.user.identity = name ∧ name ≠ "" ↔ p.Names name := by
  rw [p.identity_user]
  constructor
  · rintro ⟨rfl, hne⟩
    cases hmail : nonEmpty p.mail with
    | some address =>
        obtain ⟨haddress, hne⟩ := nonEmpty_eq_some_iff.mp hmail
        exact .mail haddress hne
    | none =>
        rw [hmail, Option.getD_none] at hne
        rw [Option.getD_none]
        cases hprincipal : p.principalName with
        | none =>
            rw [hprincipal] at hne
            exact absurd rfl hne
        | some name =>
            rw [hprincipal] at hne
            exact .principal (nonEmpty_eq_none_iff.mp hmail) hprincipal hne
  · rintro (⟨haddress, hne⟩ | ⟨hnone, hname, hne⟩)
    · rw [nonEmpty_eq_some_iff.mpr ⟨haddress, hne⟩]
      exact ⟨rfl, hne⟩
    · rw [nonEmpty_eq_none_iff.mpr hnone, hname]
      exact ⟨rfl, hne⟩

theorem Profile.identity_user_ne_empty_iff {p : Profile} :
    p.user.identity ≠ "" ↔ ∃ name : String, p.Names name := by
  simp only [← identity_user_iff, exists_eq_left']

/-! ## Looking up -/

variable {g : Graph} {token : String} {u : User} {p : Profile}

/-- `g.Describes token p`: asked who holds the token, the remote end answers with this profile. -/
structure Describes (g : Graph) (token : String) (p : Profile) : Prop where
  asked : (Text.trim token).isEmpty = false
  /-- The answer has a success status, and its body is read as the profile. -/
  answered : ∃ (r : MeRequest) (status : Nat) (body : List UInt8), g.request token = .ok r
    ∧ g.remote r = .answered status body ∧ Http.isSuccess status = true
    ∧ Profile.ofBody? body = some p

theorem ofAnswer_eq_ok_iff {status : Nat} {profile : Option Profile} : ofAnswer status profile = .ok u ↔
    Http.isSuccess status = true ∧ ∃ p : Profile, profile = some p ∧ u = p.user := by
  unfold ofAnswer
  split
  · rename_i hsuccess
    cases profile with
    | none => simp
    | some p => simp [hsuccess, eq_comm]
  · rename_i hsuccess
    have hrefused : ¬ (if refusesToken status then Except.error LookupError.userNotFound
        else .error (.unavailable ("Graph returned HTTP " ++ Http.statusText status))) = .ok u := by
      split <;> simp
    simp [hsuccess, hrefused]

theorem value_lookUp : (g.lookUp token).value = if (Text.trim token).isEmpty then .error .userNotFound
    else (g.request token).bind fun r => g.ofReply r (g.remote r) := by
  rw [lookUp]
  split
  · rfl
  · simp only [Trail.Traced.value_bind]
    cases g.request token <;> rfl

/-- **A caller is let in exactly as the remote end describes it.** -/
theorem lookUp_eq_ok_iff : (g.lookUp token).value = .ok u ↔ ∃ p : Profile, g.Describes token p ∧ u = p.user := by
  rw [value_lookUp]
  constructor
  · intro h
    split at h
    · exact absurd h (by simp)
    · rename_i hasked
      obtain ⟨r, hr, hreply⟩ := bind_eq_ok.mp h
      cases hremote : g.remote r with
      | timedOut | unreachable =>
          rw [hremote] at hreply
          exact absurd hreply (by simp [ofReply])
      | cutOff status =>
          rw [hremote] at hreply
          have hnone : ofAnswer status none = .ok u := hreply
          exact absurd (ofAnswer_eq_ok_iff.mp hnone).2 (by simp)
      | answered status body =>
          rw [hremote] at hreply
          obtain ⟨hsuccess, p, hp, rfl⟩ := ofAnswer_eq_ok_iff.mp hreply
          exact ⟨p, ⟨by simpa using hasked, r, status, body, hr, hremote, hsuccess, hp⟩, rfl⟩
  · rintro ⟨p, ⟨hasked, r, status, body, hr, hremote, hsuccess, hp⟩, rfl⟩
    rw [hasked]
    refine bind_eq_ok.mpr ⟨r, hr, ?_⟩
    rw [hremote]
    exact ofAnswer_eq_ok_iff.mpr ⟨hsuccess, p, hp, rfl⟩

end Directory.Graph

namespace Api

open Directory (Graph)
open Export (Closing Desk Move Opening closings openings writtenBy)
open Http (Request Response Route)

/-! ## Records of a server -/

variable {a : App} {s : Surroundings} {r : Request} {e : Export.InFlight}

/-- `FromCaller a r e`: the export was started for whoever the directory says holds the token of the request. -/
def FromCaller (a : App) (r : Request) (e : Export.InFlight) : Prop :=
  ∃ (token : String) (user : Directory.User), Presents r.headers token ∧ (a.lookUp token).value = .ok user
    ∧ e.generatedBy = user.identity

/-- The layers put nothing under way. -/
theorem export_of_finished {x : Response} (h : (a.finished s r x).export? = some e) : x.export? = some e := by
  have hanswered : (a.answered s r x).export? = some e → x.export? = some e := by
    intro hx
    rw [App.answered] at hx
    split at hx
    · exact absurd hx (by simp [Http.CorsPolicy.preflight, Response.export?])
    · have hhandled : (a.handled s r x).export? = some e := hx
      rw [App.handled] at hhandled
      split at hhandled
      · exact absurd hhandled (by simp [Response.bare, Response.export?])
      · rwa [export_compressed] at hhandled
  rw [App.finished] at h
  split at h
  · rw [export_withoutBody] at h
    exact hanswered h
  · split at h <;> exact hanswered h

/-- Behind a route without a caller there is no export. -/
theorem export_publicHandler (route : Route) : (a.publicHandler s route r).value.export? = none := by
  cases route with
  | metrics =>
      simp only [App.publicHandler, showMeasures]
      cases s.measured <;> rfl
  | health | live | reports | report => rfl
  | ready =>
      simp only [App.publicHandler, ready]
      split <;> rfl

/-- A request that does not read starts nothing. -/
theorem export_dispatch_of_not_isRead (hread : r.isRead = false) : (a.dispatch s r).value.export? = none := by
  rw [App.dispatch]
  cases Route.ofPath r.path with
  | none => rfl
  | some route =>
      simp only
      split
      · rw [Trail.Traced.value_bind]
        cases (requireUser a.lookUp r.headers).value with
        | error err => exact (refuses_reject err).body
        | ok user =>
            simp only [App.readsOnly, hread]
            rfl
      · simp only [App.readsOnly, hread]
        rfl

/-- Only behind a route with a caller there is ever an export, and only for a request that reads. -/
theorem exists_route_of_dispatch (h : (a.dispatch s r).value.export? = some e) :
    r.isRead = true ∧ ∃ route : Route, Route.ofPath r.path = some route ∧ route.isProtected = true := by
  by_cases hread : r.isRead = true
  · refine ⟨hread, ?_⟩
    cases hroute : Route.ofPath r.path with
    | none =>
        simp only [App.dispatch, hroute] at h
        exact absurd h (by simp [Response.bare, Response.export?])
    | some route =>
        refine ⟨route, rfl, ?_⟩
        by_contra hp
        simp only [App.dispatch, hroute, if_neg hp, App.readsOnly, if_pos hread, export_publicHandler] at h
        exact absurd h (by simp)
  · rw [export_dispatch_of_not_isRead (by simpa using hread)] at h
    exact absurd h (by simp)

/-- What is under way behind an answer was started for the caller. -/
theorem fromCaller_of_dispatch (h : (a.dispatch s r).value.export? = some e) : FromCaller a r e := by
  obtain ⟨hread, route, hroute, hp⟩ := exists_route_of_dispatch h
  -- the gate lets in whom the directory vouches for
  obtain ⟨v, hv⟩ := exists_judged a r route
  obtain ⟨token, user, rfl, hby⟩ := hv.export_dispatch hread hroute hp h
  cases hv with
  | admitted hpresents huser _ => exact ⟨token, user, hpresents, huser, hby⟩

/-- The record of an exchange is that of the export behind the answer. -/
theorem exists_export_of_recorded {mode : Delivery.ReadMode} {entry : Report.Tracking}
    (h : (exchange a s mode r).value.recorded = some entry) :
    ∃ e : Export.InFlight, (a.respond s r).value.export? = some e ∧ entry = e.tracking s.moment := by
  -- however the body is read, the export is settled in the same way
  have hfinish : ∀ (e : Export.InFlight) (reading : Delivery.Reading) (body : Delivery.Reading → Option (List UInt8)),
      (consume.finish a.service.collaborators.record s.moment (bodyKeepsOpen s r) (closeRequest s r)
        (a.respond s r).value e reading body).value.recorded
      = (e.settle a.service.collaborators.record s.moment reading.publication.verdict).value := by
    intro e reading body
    unfold consume.finish
    split <;> rfl
  rw [exchange, Trail.Traced.value_bind] at h
  cases hbody : (a.respond s r).value.body with
  | text text =>
      simp only [consume, hbody] at h
      exact absurd h (by simp)
  | stream e =>
      simp only [consume, hbody] at h
      rw [hfinish] at h
      exact ⟨e, by rw [Response.export?, hbody], (Export.value_settle_eq_some.mp h).2.2⟩
  | abandoned e =>
      simp only [consume, hbody] at h
      rw [hfinish] at h
      exact ⟨e, by rw [Response.export?, hbody], (Export.value_settle_eq_some.mp h).2.2⟩

/-- One exchange leaves a record of its caller, or none. -/
theorem exists_caller_of_recorded {mode : Delivery.ReadMode} {entry : Report.Tracking}
    (h : (exchange a s mode r).value.recorded = some entry) : ∃ (token : String) (user : Directory.User),
      Presents r.headers token ∧ (a.lookUp token).value = .ok user ∧ entry.generatedBy = user.identity := by
  obtain ⟨e, he, rfl⟩ := exists_export_of_recorded h
  rw [App.value_respond] at he
  exact fromCaller_of_dispatch (export_of_finished he)

/-- Every record is left by one of the exchanges, however many there are. By induction on the requests: all that a later
one finds changed is what has been measured. -/
theorem exists_exchange_of_mem_recordsOf {asks : List Ask} {before : List Trail.Entry} {entry : Report.Tracking}
    (h : entry ∈ recordsOf (visits a s before asks)) : ∃ ask ∈ asks, ∃ before' : List Trail.Entry,
      (exchange a (s.after before') ask.mode ask.request).value.recorded = some entry := by
  induction asks generalizing before with
  | nil => exact absurd h (by simp [visits, recordsOf])
  | cons ask rest ih =>
      rw [visits, recordsOf, List.mem_filterMap] at h
      obtain ⟨v, hv, hentry⟩ := h
      rcases List.mem_cons.mp hv with rfl | hv
      · exact ⟨ask, List.mem_cons_self, before, hentry⟩
      · obtain ⟨ask', hask, hleft⟩ := ih (List.mem_filterMap.mpr ⟨v, hv, hentry⟩)
        exact ⟨ask', List.mem_cons_of_mem ask hask, hleft⟩

/-- **Every record names the caller of a request that left it.** -/
theorem exists_caller_of_mem_recordsOf {asks : List Ask} {before : List Trail.Entry} {entry : Report.Tracking}
    (h : entry ∈ recordsOf (visits a s before asks)) : ∃ ask ∈ asks, ∃ (token : String) (user : Directory.User),
      Presents ask.request.headers token ∧ (a.lookUp token).value = .ok user
        ∧ entry.generatedBy = user.identity := by
  obtain ⟨ask, hask, before', hleft⟩ := exists_exchange_of_mem_recordsOf h
  exact ⟨ask, hask, exists_caller_of_recorded hleft⟩

/-! ## Records of exports that take turns -/

/-- A record that a closing has written names the caller for whom the export was started. -/
theorem exists_opening_of_writtenBy {moves : List Move} {d : Desk} (h : Desk.idle.run moves = some d) {c : Closing}
    (hc : c ∈ closings moves) {entry : Report.Tracking} (hentry : writtenBy moves c = some entry) :
    ∃ o : Opening, (openings moves)[c.job]? = some o ∧ entry.generatedBy = o.user.identity := by
  obtain ⟨o, def_, artifact, offer, out, hsaw, hiff⟩ := (Export.told_of_run h).written hc
  obtain ⟨-, -, rfl⟩ := (hiff entry).mp hentry
  exact ⟨o, hsaw.asked, rfl⟩

/-! ## At the top -/

/-- `Signed g`: how far records name callers that the remote directory `g` knows. -/
structure Signed (g : Graph) : Prop where
  /-- A caller is let in as the directory describes it, with a name or without. -/
  known : ∀ (token : String) (user : Directory.User), (g.lookUp token).value = .ok user ↔
    ∃ p : Graph.Profile, g.Describes token p ∧ user = p.user
  /-- The identity of the caller is the name in the description, and empty if there is none. -/
  identity : ∀ (p : Graph.Profile) (name : String), p.user.identity = name ∧ name ≠ "" ↔ p.Names name
  /-- At a server that asks this directory, every record is of some caller, and names that caller exactly if the
  directory does. -/
  served : ∀ a : App, a.lookUp = g.lookUp → ∀ (s : Surroundings) (before : List Trail.Entry) (asks : List Ask),
    ∀ entry ∈ recordsOf (visits a s before asks), ∃ ask ∈ asks, ∃ (token : String) (p : Graph.Profile),
      Presents ask.request.headers token ∧ g.Describes token p ∧ entry.generatedBy = p.user.identity
        ∧ (entry.generatedBy ≠ "" ↔ ∃ name : String, p.Names name)
  /-- At a desk where many exports are under way, so does every record of an export for such a caller. -/
  exported : ∀ (moves : List Move) (d : Desk), Desk.idle.run moves = some d →
    d.records = (closings moves).filterMap (writtenBy moves)
      ∧ ∀ c ∈ closings moves, ∀ entry : Report.Tracking, writtenBy moves c = some entry →
        ∃ o : Opening, (openings moves)[c.job]? = some o ∧ ∀ token : String, (g.lookUp token).value = .ok o.user →
          ∃ p : Graph.Profile, g.Describes token p ∧ entry.generatedBy = p.user.identity
            ∧ (entry.generatedBy ≠ "" ↔ ∃ name : String, p.Names name)

/-- **A record names its caller exactly if the remote directory does.** -/
theorem signed (g : Graph) : Signed g where
  known _ _ := Graph.lookUp_eq_ok_iff
  identity _ _ := Graph.Profile.identity_user_iff
  served a ha s before asks entry hentry := by
    obtain ⟨ask, hask, token, user, hpresents, huser, hby⟩ := exists_caller_of_mem_recordsOf hentry
    rw [ha] at huser
    obtain ⟨p, hp, rfl⟩ := Graph.lookUp_eq_ok_iff.mp huser
    exact ⟨ask, hask, token, p, hpresents, hp, hby, hby ▸ Graph.Profile.identity_user_ne_empty_iff⟩
  exported moves d h := by
    refine ⟨(Export.told_of_run h).records, fun c hc entry hentry => ?_⟩
    obtain ⟨o, ho, hby⟩ := exists_opening_of_writtenBy h hc hentry
    refine ⟨o, ho, fun token huser => ?_⟩
    obtain ⟨p, hp, hu⟩ := Graph.lookUp_eq_ok_iff.mp huser
    rw [hu] at hby
    exact ⟨p, hp, hby, hby ▸ Graph.Profile.identity_user_ne_empty_iff⟩

/-- A directory that says nothing of a caller but an id. -/
def namelessDirectory : Graph where
  meUrl := "http://[::1]:8080/v1.0/me"
  timeoutMs := 500
  remote _ := .answered 200 (Text.utf8 "\x7b\"id\":\"a1b2\"\x7d")

/-- An export for a caller who reads it to its end. -/
def visitOf (user : Directory.User) : List Move :=
  let moment : Moment := ⟨⟨2024, 2, 3⟩, 4, 5, 6, 0⟩
  [.start Export.sampleService 7 user moment, .advance 0 (.push 4), .advance 0 (.poll 4), .advance 0 .shut,
    .advance 0 (.poll 1), .close 0 Export.sampleService.collaborators.record moment]

/-- A caller described by an id alone is let in, and the record of that caller's export names nobody. -/
theorem not_signed_nameless : ∃ user : Directory.User, (namelessDirectory.lookUp "token").value = .ok user
    ∧ user.identity = "" ∧ ∃ d : Desk, Desk.idle.run (visitOf user) = some d
      ∧ d.records = [⟨7, ⟨⟨2024, 2, 3⟩, 4, 5, 6, 0⟩, "", "out/csv/r_20240203_040506.csv"⟩] := by
  refine ⟨⟨"a1b2", "", none, ""⟩, by decide +kernel, rfl, ?_⟩
  have hrun : (Desk.idle.run (visitOf ⟨"a1b2", "", none, ""⟩)).isSome = true := by decide +kernel
  have hwritten : (closings (visitOf ⟨"a1b2", "", none, ""⟩)).filterMap (writtenBy (visitOf ⟨"a1b2", "", none, ""⟩))
      = [⟨7, ⟨⟨2024, 2, 3⟩, 4, 5, 6, 0⟩, "", "out/csv/r_20240203_040506.csv"⟩] := by decide +kernel
  obtain ⟨d, hd⟩ := Option.isSome_iff_exists.mp hrun
  exact ⟨d, hd, (Export.told_of_run hd).records.trans hwritten⟩

end Api

end ReportServer
