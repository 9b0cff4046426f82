import ReportServer.Proofs.Api.Authors
import ReportServer.Proofs.Directory.Profile
import ReportServer.Proofs.Text.Stripping

/-!
# Whom the remote directory vouches for

A token is good if the remote end answers with a success status and a body that describes a user. There is no other way:
a body that describes a user counts for nothing under another status, and so does a success status over a body that
describes nobody. What is left is told apart by the status alone. Three statuses say that nobody holds the token, and
everything else says that the directory has failed.

A look-up that does not find a user ends the request. The caller is told which of the two it was, in one of two fixed
texts, and nothing behind the gate is called.
-/

namespace ReportServer

open Json (Document)

namespace Directory.Graph

variable {g : Graph} {token : String} {u : User} {p : Profile} {profile : Option Profile} {status : Nat} {reply : MeReply}

/-! ## Asking -/

/-- There is nothing to a token but blanks. -/
def Blank (token : String) : Prop := ∀ c ∈ token.toList, Text.isBlank c = true

theorem isEmpty_trim_iff : (Text.trim token).isEmpty = true ↔ Blank token := by
  rw [String.isEmpty_iff, Text.trim, ← String.toList_inj, String.toList_ofList, String.toList_empty,
    Text.strip_eq_nil_iff, Blank]

/-- `g.Requests token r`: this is the request for the holder of a token. It carries the token and goes to the address of
the directory, which must name a host of the web; and the token must be one that can stand in a header. -/
structure Requests (g : Graph) (token : String) (r : MeRequest) : Prop where
  carried : r.token = token
  url : Net.Url.parse g.meUrl = .ok r.url
  host : ∃ host : String, r.url.host = some host
  scheme : r.url.scheme = "http" ∨ r.url.scheme = "https"
  inHeader : ∀ c ∈ token.toList, c = '\t' ∨ ' ' ≤ c ∧ c ≠ '\x7f'

/-- A request that is sent is the one that is to be sent, and whatever is in the way of one is a failure. -/
theorem requests_or_unavailable (g : Graph) (token : String) :
    (∃ r : MeRequest, g.request token = .ok r ∧ g.Requests token r)
      ∨ (∃ detail : String, g.request token = .error (.unavailable detail)) ∧ ∀ r : MeRequest, ¬g.Requests token r := by
  unfold request
  cases hurl : Net.Url.parse g.meUrl with
  | error e => exact .inr ⟨⟨_, rfl⟩, fun r h => absurd (hurl.symm.trans h.url) (by simp)⟩
  | ok url =>
    have hweb : isSendable url = true ↔ url.scheme = "http" ∨ url.scheme = "https" := by simp [isSendable]
    have hsame : ∀ r : MeRequest, g.Requests token r → r.url = url := fun r h => (Except.ok.inj (hurl.symm.trans h.url)).symm
    dsimp only
    split_ifs with hhost htoken hscheme
    · refine .inr ⟨⟨_, rfl⟩, fun r h => ?_⟩
      obtain ⟨host, hsome⟩ := h.host
      rw [← hsame r h, hsome] at hhost
      exact absurd hhost (by simp)
    · exact .inr ⟨⟨_, rfl⟩, fun r h => by simp [Http.isHeaderValue_iff.mpr h.inHeader] at htoken⟩
    · exact .inr ⟨⟨_, rfl⟩, fun r h => by simp [hweb.mpr (hsame r h ▸ h.scheme)] at hscheme⟩
    · refine .inl ⟨⟨url, token⟩, rfl, rfl, hurl, ?_, ?_, ?_⟩
      · exact Option.ne_none_iff_exists'.mp (by simpa using hhost)
      · exact hweb.mp (by simpa using hscheme)
      · exact Http.isHeaderValue_iff.mp (by simpa using htoken)

theorem request_eq_ok_iff {r : MeRequest} : g.request token = .ok r ↔ g.Requests token r := by
  rcases g.requests_or_unavailable token with ⟨sent, hsent, hrequests⟩ | ⟨⟨detail, hdetail⟩, hnone⟩
  · constructor
    · intro h
      obtain rfl := Except.ok.inj (hsent.symm.trans h)
      exact hrequests
    · intro h
      -- token and address fix the request
      obtain ⟨url, presented⟩ := r
      obtain ⟨url', presented'⟩ := sent
      obtain rfl : url' = url := Except.ok.inj (hrequests.url.symm.trans h.url)
      obtain rfl : presented' = presented := hrequests.carried.trans h.carried.symm
      exact hsent
  · rw [hdetail]
    exact ⟨fun h => absurd h (by simp), fun h => absurd h (hnone r)⟩

theorem request_of_not_requests (h : ∀ r : MeRequest, ¬g.Requests token r) :
    ∃ detail : String, g.request token = .error (.unavailable detail) := by
  rcases g.requests_or_unavailable token with ⟨r, -, hrequests⟩ | ⟨hdetail, -⟩
  · exact absurd hrequests (h r)
  · exact hdetail

/-- `g.Hears token reply`: the remote end is asked who holds the token, and this is what becomes of it. -/
structure Hears (g : Graph) (token : String) (reply : MeReply) : Prop where
  notBlank : ¬Blank token
  asked : ∃ r : MeRequest, g.Requests token r ∧ g.remote r = reply

/-- `g.Answers token status profile`: the remote end answers with this status, and its body describes this user, or
describes nobody. -/
inductive Answers (g : Graph) (token : String) : Nat → Option Profile → Prop
  | described {status : Nat} {body : List UInt8} {v : Json.Outline} {p : Profile} :
    g.Hears token (.answered status body) → Document v (Text.ofBytes body) → Profiles v p →
    Answers g token status (some p)
  | undescribed {status : Nat} {body : List UInt8} : g.Hears token (.answered status body) →
    (∀ v p, Document v (Text.ofBytes body) → ¬Profiles v p) → Answers g token status none
  | cutOff {status : Nat} : g.Hears token (.cutOff status) → Answers g token status none

/-- What may become of a look-up. -/
inductive Course (g : Graph) (token : String) : Prop
  | blank : Blank token → Course g token
  | unasked : ¬Blank token → (∀ r : MeRequest, ¬g.Requests token r) → Course g token
  | timedOut : g.Hears token .timedOut → Course g token
  | unreachable : g.Hears token .unreachable → Course g token
  | answers {status : Nat} {profile : Option Profile} : g.Answers token status profile → Course g token

theorem course (g : Graph) (token : String) : g.Course token := by
  by_cases hblank : Blank token
  · exact .blank hblank
  · rcases g.requests_or_unavailable token with ⟨r, -, hrequests⟩ | ⟨-, hnone⟩
    · have hhears : g.Hears token (g.remote r) := ⟨hblank, r, hrequests, rfl⟩
      cases hreply : g.remote r with
      | timedOut => exact .timedOut (hreply ▸ hhears)
      | unreachable => exact .unreachable (hreply ▸ hhears)
      | cutOff status => exact .answers (.cutOff (hreply ▸ hhears))
      | answered status body =>
        rw [hreply] at hhears
        by_cases hdescribed : ∃ v p, Document v (Text.ofBytes body) ∧ Profiles v p
        · obtain ⟨v, p, hv, hp⟩ := hdescribed
          exact .answers (.described hhears hv hp)
        · exact .answers (.undescribed hhears fun v p hv hp => hdescribed ⟨v, p, hv, hp⟩)
    · exact .unasked hblank hnone

/-! ## What the look-up makes of it -/

theorem value_lookUp_of_blank (h : Blank token) : (g.lookUp token).value = .error .userNotFound := by
  rw [value_lookUp, if_pos (isEmpty_trim_iff.mpr h)]

theorem Hears.value_lookUp (h : g.Hears token reply) : ∃ r : MeRequest, (g.lookUp token).value = g.ofReply r reply := by
  obtain ⟨r, hrequests, rfl⟩ := h.asked
  rw [Graph.value_lookUp, if_neg (mt isEmpty_trim_iff.mp h.notBlank), request_eq_ok_iff.mpr hrequests]
  exact ⟨r, rfl⟩

/-- An answer counts by its status, and by the user in its body. -/
theorem Answers.value_lookUp (h : g.Answers token status profile) : (g.lookUp token).value = ofAnswer status profile := by
  cases h with
  | @described body v p hhears hv hp =>
    obtain ⟨r, hvalue⟩ := hhears.value_lookUp
    rw [hvalue, ofReply, Profile.ofBody?_eq_some_iff.mpr ⟨v, hv, hp⟩]
  | @undescribed body hhears hnone =>
    obtain ⟨r, hvalue⟩ := hhears.value_lookUp
    have hbody : Profile.ofBody? body = none := by
      rw [Option.eq_none_iff_forall_ne_some]
      intro p hp
      obtain ⟨v, hv, hp⟩ := Profile.ofBody?_eq_some_iff.mp hp
      exact hnone v p hv hp
    rw [hvalue, ofReply, hbody]
  | cutOff hhears =>
    obtain ⟨r, hvalue⟩ := hhears.value_lookUp
    rw [hvalue, ofReply]

theorem isSuccess_iff : Http.isSuccess status = true ↔ 200 ≤ status ∧ status < 300 := by
  simp [Http.isSuccess]

theorem refusesToken_iff : refusesToken status = true ↔ status = 401 ∨ status = 403 ∨ status = 404 := by
  simp [refusesToken, or_assoc]

/-- The remote end vouches for the token: a success status over a body that describes this user. -/
def Vouches (g : Graph) (token : String) (p : Profile) : Prop :=
  ∃ status : Nat, 200 ≤ status ∧ status < 300 ∧ g.Answers token status (some p)

/-- The remote end refuses the token: one of three statuses, whatever is in the body. -/
def Refuses (g : Graph) (token : String) : Prop :=
  ∃ (status : Nat) (profile : Option Profile), (status = 401 ∨ status = 403 ∨ status = 404)
    ∧ g.Answers token status profile

/-- The directory fails. -/
inductive Fails (g : Graph) (token : String) : Prop
  /-- There is no request that could be sent, -/
  | unasked : ¬Blank token → (∀ r : MeRequest, ¬g.Requests token r) → Fails g token
  /-- or it comes to no answer, -/
  | timedOut : g.Hears token .timedOut → Fails g token
  | unreachable : g.Hears token .unreachable → Fails g token
  /-- or to a success status over a body that describes nobody, -/
  | undescribed {status : Nat} : 200 ≤ status → status < 300 → g.Answers token status none → Fails g token
  /-- or to any other status, whatever is in the body. -/
  | status {status : Nat} {profile : Option Profile} : ¬(200 ≤ status ∧ status < 300) →
    ¬(status = 401 ∨ status = 403 ∨ status = 404) → g.Answers token status profile → Fails g token

theorem Vouches.value_lookUp (h : g.Vouches token p) : (g.lookUp token).value = .ok p.user := by
  obtain ⟨status, hge, hlt, hanswers⟩ := h
  rw [hanswers.value_lookUp]
  exact ofAnswer_eq_ok_iff.mpr ⟨isSuccess_iff.mpr ⟨hge, hlt⟩, p, rfl, rfl⟩

theorem Refuses.value_lookUp (h : g.Refuses token) : (g.lookUp token).value = .error .userNotFound := by
  obtain ⟨status, profile, hstatus, hanswers⟩ := h
  have hsuccess : ¬Http.isSuccess status = true := by
    rw [isSuccess_iff]
    omega
  rw [hanswers.value_lookUp]
  unfold ofAnswer
  rw [if_neg hsuccess, if_pos (refusesToken_iff.mpr hstatus)]

theorem Fails.value_lookUp (h : g.Fails token) : ∃ detail, (g.lookUp token).value = .error (.unavailable detail) := by
  cases h with
  | unasked hblank hnone =>
    obtain ⟨detail, hrequest⟩ := request_of_not_requests hnone
    rw [Graph.value_lookUp, if_neg (mt isEmpty_trim_iff.mp hblank), hrequest]
    exact ⟨detail, rfl⟩
  | timedOut hhears =>
    obtain ⟨r, hvalue⟩ := hhears.value_lookUp
    exact ⟨_, hvalue⟩
  | unreachable hhears =>
    obtain ⟨r, hvalue⟩ := hhears.value_lookUp
    exact ⟨_, hvalue⟩
  | undescribed hge hlt hanswers =>
    rw [hanswers.value_lookUp, ofAnswer, if_pos (isSuccess_iff.mpr ⟨hge, hlt⟩)]
    exact ⟨_, rfl⟩
  | status hsuccess hrefused hanswers =>
    rw [hanswers.value_lookUp]
    unfold ofAnswer
    rw [if_neg (mt isSuccess_iff.mp hsuccess), if_neg (mt refusesToken_iff.mp hrefused)]
    exact ⟨_, rfl⟩

/-- One of the three it is. -/
theorem vouches_or_refuses_or_fails (g : Graph) (token : String) :
    (∃ p, g.Vouches token p) ∨ (Blank token ∨ g.Refuses token) ∨ g.Fails token := by
  cases g.course token with
  | blank h => exact .inr (.inl (.inl h))
  | unasked hblank hnone => exact .inr (.inr (.unasked hblank hnone))
  | timedOut h => exact .inr (.inr (.timedOut h))
  | unreachable h => exact .inr (.inr (.unreachable h))
  | @answers status profile h =>
    by_cases hsuccess : 200 ≤ status ∧ status < 300
    · cases profile with
      | some p => exact .inl ⟨p, status, hsuccess.1, hsuccess.2, h⟩
      | none => exact .inr (.inr (.undescribed hsuccess.1 hsuccess.2 h))
    · by_cases hrefused : status = 401 ∨ status = 403 ∨ status = 404
      · exact .inr (.inl (.inr ⟨status, profile, hrefused, h⟩))
      · exact .inr (.inr (.status hsuccess hrefused h))

/-- What comes of each of the three. -/
theorem value_lookUp_cases (g : Graph) (token : String) :
    (∃ p : Profile, g.Vouches token p ∧ (g.lookUp token).value = .ok p.user) ∨
      ((Blank token ∨ g.Refuses token) ∧ (g.lookUp token).value = .error .userNotFound) ∨
      (g.Fails token ∧ ∃ detail : String, (g.lookUp token).value = .error (.unavailable detail)) := by
  rcases g.vouches_or_refuses_or_fails token with ⟨p, hp⟩ | (hblank | hrefuses) | hfails
  · exact .inl ⟨p, hp, hp.value_lookUp⟩
  · exact .inr (.inl ⟨.inl hblank, value_lookUp_of_blank hblank⟩)
  · exact .inr (.inl ⟨.inr hrefuses, hrefuses.value_lookUp⟩)
  · exact .inr (.inr ⟨hfails, hfails.value_lookUp⟩)

theorem value_lookUp_eq_ok_iff {u : User} :
    (g.lookUp token).value = .ok u ↔ ∃ p : Profile, g.Vouches token p ∧ u = p.user := by
  constructor
  · intro hu
    rcases g.value_lookUp_cases token with ⟨p, hp, hvalue⟩ | ⟨-, hvalue⟩ | ⟨-, detail, hvalue⟩
    · exact ⟨p, hp, Except.ok.inj (hu.symm.trans hvalue)⟩
    · exact absurd (hu.symm.trans hvalue) (by simp)
    · exact absurd (hu.symm.trans hvalue) (by simp)
  · rintro ⟨p, hp, rfl⟩
    exact hp.value_lookUp

theorem value_lookUp_eq_userNotFound_iff :
    (g.lookUp token).value = .error .userNotFound ↔ Blank token ∨ g.Refuses token := by
  constructor
  · intro hnone
    rcases g.value_lookUp_cases token with ⟨p, -, hvalue⟩ | ⟨hrefused, -⟩ | ⟨-, detail, hvalue⟩
    · exact absurd (hnone.symm.trans hvalue) (by simp)
    · exact hrefused
    · exact absurd (hnone.symm.trans hvalue) (by simp)
  · rintro (hblank | hrefuses)
    · exact value_lookUp_of_blank hblank
    · exact hrefuses.value_lookUp

theorem value_lookUp_eq_unavailable_iff :
    (∃ detail : String, (g.lookUp token).value = .error (.unavailable detail)) ↔ g.Fails token := by
  refine ⟨?_, fun hfails => hfails.value_lookUp⟩
  rintro ⟨detail, hdetail⟩
  rcases g.value_lookUp_cases token with ⟨p, -, hvalue⟩ | ⟨-, hvalue⟩ | ⟨hfails, -⟩
  · exact absurd (hdetail.symm.trans hvalue) (by simp)
  · exact absurd (hdetail.symm.trans hvalue) (by simp)
  · exact hfails

/-- How a user is shown whom a profile describes. -/
structure Profile.Shown (p : Profile) (u : User) : Prop where
  id : u.id = p.id
  /-- The mail address is there unless it is empty. -/
  email : ∀ address : String, u.email = some address ↔ p.mail = some address ∧ address ≠ ""
  /-- The name is the one of the profile unless that is empty, -/
  named : ∀ name : String, p.displayName = some name → name ≠ "" → u.displayName = name
  /-- and otherwise the principal name. -/
  unnamed : (∀ name : String, p.displayName = some name → name = "") → u.displayName = u.principalName
  principalName : u.principalName = p.principalName.getD ""

theorem Profile.shown_user (p : Profile) : p.Shown p.user where
  id := rfl
  email _ := nonEmpty_eq_some_iff
  named name hname hne := by
    rw [user, nonEmpty_eq_some_iff.mpr ⟨hname, hne⟩]
    rfl
  unnamed hnone := by
    rw [user, nonEmpty_eq_none_iff.mpr hnone]
    rfl
  principalName := rfl

/-- A look-up calls no collaborator of the server. -/
theorem calls_lookUp (g : Graph) (token : String) : Trail.calls (g.lookUp token).trail = [] := by
  rw [lookUp]
  split
  · rfl
  · cases hrequest : g.request token <;> rfl

end Directory.Graph

namespace Api

open Directory (Graph LookupError)
open Http (Request Response Route)

variable {a : App} {s : Surroundings} {r : Request} {route : Route} {token : String} {e : LookupError}

/-! ## What the caller is told -/

/-- What a caller is told whose token is not found to be good. -/
def turnedAwayText : LookupError → String
  | .userNotFound => "\x7b\"error\":\"unauthorized\",\"message\":\"Invalid or expired token\"\x7d"
  | .unavailable _ => "\x7b\"error\":\"unauthorized\",\"message\":\"Unable to verify user identity\"\x7d"

theorem compact_body_ofLookup (e : LookupError) : (ApiError.ofLookup e).body.compact = turnedAwayText e := by
  -- a caller is told nothing of the detail, so it does not matter which detail it is
  have hother : ∀ detail : String, (ApiError.ofLookup (.unavailable detail)).body.compact
      = (ApiError.ofLookup (.unavailable "")).body.compact := fun _ => rfl
  cases e with
  | userNotFound => decide +kernel
  | unavailable detail =>
    rw [hother]
    show _ = turnedAwayText (.unavailable "")
    decide +kernel

section TurnedAway

variable (hroute : Route.ofPath r.path = some route) (hp : route.isProtected = true)
  (hpresents : Presents r.headers token) (he : (a.lookUp token).value = .error e)
include hroute hp hpresents he

/-- The gate does not look at the method of a request, only at its token. -/
theorem dispatch_of_error :
    (a.dispatch s r).value = ⟨401, [("content-type", "application/json")], .text (turnedAwayText e)⟩
      ∧ Trail.calls (a.dispatch s r).trail = .lookUp token :: Trail.calls (a.lookUp token).trail := by
  have hfound : (requireUser a.lookUp r.headers).value = .error (ApiError.ofLookup e) := by
    rw [value_requireUser, bearerToken_eq_some.mpr hpresents, callerFound, he]
    rfl
  have hcalls : Trail.calls (requireUser a.lookUp r.headers).trail
      = .lookUp token :: Trail.calls (a.lookUp token).trail := by
    rw [calls_requireUser, bearerToken_eq_some.mpr hpresents, callerCalls]
  constructor
  · simp only [App.dispatch, hroute, hp, if_true, Trail.Traced.value_bind, hfound]
    show (reject (ApiError.ofLookup e)).value = _
    rw [value_reject, Response.json, compact_body_ofLookup]
    cases e <;> rfl
  · simp only [App.dispatch, hroute, hp, if_true, Trail.Traced.trail_bind, Trail.calls_append, hfound, hcalls,
      calls_reject, List.append_nil]

end TurnedAway

/-- Nothing follows an answer that is there as a whole. -/
theorem exchange_of_text {text : String} (h : (a.respond s r).value.body = .text text) (mode : Delivery.ReadMode) :
    (exchange a s mode r).value.recorded = none
      ∧ Trail.calls (exchange a s mode r).trail = Trail.calls (a.respond s r).trail := by
  have hclosing : Trail.calls (closeRequest s r).trail = [] := by
    rw [closeRequest]
    split <;> rfl
  constructor
  · rw [exchange, Trail.Traced.value_bind]
    simp only [consume, h]
    rfl
  · rw [exchange, Trail.Traced.trail_bind, Trail.calls_append]
    simp only [consume, h, Trail.Traced.trail_bind, Trail.calls_append, hclosing]
    simp

/-- `TurnedAway a s mode r token e`: what comes of a request whose token is looked up to no user. -/
structure TurnedAway (a : App) (s : Surroundings) (mode : Delivery.ReadMode) (r : Request) (token : String)
    (e : LookupError) : Prop where
  /-- It is not authorized, -/
  status : (exchange a s mode r).value.response.status = 401
  /-- it is told why in a fixed text, if it asks for a body, -/
  body : (exchange a s mode r).value.response.body = .text (if r.method = "HEAD" then "" else turnedAwayText e)
  /-- nobody is called but the directory, -/
  calls : Trail.calls (exchange a s mode r).trail = [.lookUp token]
  /-- and there is nothing to record. -/
  recorded : (exchange a s mode r).value.recorded = none

theorem turnedAway (hroute : Route.ofPath r.path = some route) (hp : route.isProtected = true)
    (hopt : r.isOptions = false) (hs : s.overdue = false) (hpresents : Presents r.headers token)
    (he : (a.lookUp token).value = .error e) (hcalls : Trail.calls (a.lookUp token).trail = [])
    (mode : Delivery.ReadMode) : TurnedAway a s mode r token e := by
  obtain ⟨hvalue, htrail⟩ := dispatch_of_error (s := s) hroute hp hpresents he
  have hbody : (a.respond s r).value.body = .text (if r.method = "HEAD" then "" else turnedAwayText e) := by
    rw [App.value_respond, App.body_finished a s hopt hs, hvalue]
    split <;> rfl
  obtain ⟨hrecorded, hsame⟩ := exchange_of_text hbody mode
  constructor
  case status =>
    rw [(value_exchange a s mode r).1, App.value_respond, App.status_finished hopt, hvalue, hs]
    rfl
  case body => rw [(value_exchange a s mode r).1, hbody]
  case calls =>
    rw [hsame, (App.calls_respond_of_isOptions hopt).2 hs, htrail, hcalls]
  case recorded => exact hrecorded

/-! ## At the top -/

/-- `FailsClosed g`: the remote directory `g` lets nobody in by a failure. -/
structure FailsClosed (g : Graph) : Prop where
  /-- A blank token is nobody's, and the remote end is not asked: whatever it would say, nothing else happens. -/
  blank : ∀ token : String, Graph.Blank token → ∀ remote : Directory.MeRequest → Directory.MeReply,
    ({ g with remote } : Graph).lookUp token = pure (.error .userNotFound)
  /-- A user is found exactly if the remote end vouches for the token, -/
  vouched : ∀ (token : String) (u : Directory.User), (g.lookUp token).value = .ok u ↔
    ∃ p : Graph.Profile, g.Vouches token p ∧ u = p.user
  /-- and is the one that is described. -/
  shown : ∀ p : Graph.Profile, p.Shown p.user
  /-- Nobody is found exactly if the token is blank or refused by its status, whatever is in the body. -/
  refused : ∀ token : String, (g.lookUp token).value = .error .userNotFound ↔ Graph.Blank token ∨ g.Refuses token
  /-- The look-up fails exactly if the directory does. -/
  failed : ∀ token : String, (∃ detail : String, (g.lookUp token).value = .error (.unavailable detail)) ↔ g.Fails token
  /-- At a server that asks this directory, whoever is not found is turned away, and the directory is all that is
  called. A request that only asks what it may do is not looked at, and one whose time is up gets no such answer. -/
  turnedAway : ∀ a : App, a.lookUp = g.lookUp → ∀ (s : Surroundings) (mode : Delivery.ReadMode) (r : Request)
    (route : Route) (token : String) (e : LookupError), Route.ofPath r.path = some route → route.isProtected = true →
    r.isOptions = false → s.overdue = false → Presents r.headers token → (g.lookUp token).value = .error e →
    TurnedAway a s mode r token e

/-- **No failure of the remote directory is taken for a user.** -/
theorem failsClosed (g : Graph) : FailsClosed g := by
  constructor
  case blank =>
    intro token hblank remote
    rw [Graph.lookUp, if_pos (Graph.isEmpty_trim_iff.mpr hblank)]
  case vouched => exact fun token u => Graph.value_lookUp_eq_ok_iff
  case shown => exact Graph.Profile.shown_user
  case refused => exact fun token => Graph.value_lookUp_eq_userNotFound_iff
  case failed => exact fun token => Graph.value_lookUp_eq_unavailable_iff
  case turnedAway =>
    intro a ha s mode r route token e hroute hp hopt hs hpresents he
    rw [← ha] at he
    have hcalls : Trail.calls (a.lookUp token).trail = [] := by
      rw [ha, Graph.calls_lookUp]
    exact Api.turnedAway hroute hp hopt hs hpresents he hcalls mode

/-- A directory that forbids every token, and describes a user all the same. -/
def forbiddingDirectory : Graph where
  meUrl := "http://[::1]:8080/v1.0/me"
  timeoutMs := 500
  remote _ := .answered 403 (Text.utf8 "\x7b\"roles\":[1e999],\"id\":\"a1b2\"\x7d")

/-- The user who is described is not let in. -/
theorem failsClosed_forbidding : ∃ p : Graph.Profile, forbiddingDirectory.Answers "token" 403 (some p)
    ∧ (forbiddingDirectory.lookUp "token").value = .error .userNotFound := by
  have hrequest : (forbiddingDirectory.request "token").toOption.isSome = true := by decide +kernel
  have hbody : Graph.Profile.ofBody? (Text.utf8 "\x7b\"roles\":[1e999],\"id\":\"a1b2\"\x7d")
      = some ⟨"a1b2", none, none, none⟩ := by decide +kernel
  have hnotBlank : ¬Graph.Blank "token" := fun h => absurd (h 't' (by decide)) (by decide)
  cases hr : forbiddingDirectory.request "token" with
  | error e => exact absurd hrequest (by simp [hr, Except.toOption])
  | ok r =>
    obtain ⟨v, hv, hp⟩ := Graph.Profile.ofBody?_eq_some_iff.mp hbody
    have hanswers : forbiddingDirectory.Answers "token" 403 (some ⟨"a1b2", none, none, none⟩) :=
      .described ⟨hnotBlank, r, Graph.request_eq_ok_iff.mp hr, rfl⟩ hv hp
    exact ⟨_, hanswers, ((failsClosed forbiddingDirectory).refused "token").mpr (.inr ⟨403, _, by simp, hanswers⟩)⟩

end Api

end ReportServer
