import ReportServer.Proofs.Api.Layers
import ReportServer.Proofs.Export.Start
import ReportServer.Store.Catalogue
import Mathlib.Data.List.Forall2

/-!
# No query and no detail of a failure reaches a caller

Two servers are compared that differ in what is to be kept from callers: the queries of the reports, who
made them and when, and why a store, a query or the directory failed. To the same request they give the
same answer.

The comparison goes along the path of a request. `SameAnswer` relates what two collaborators say when a
caller must not be able to tell them apart; it is carried from the store through the stages of an
export to the handlers, where the refusals drop what is left of the difference. From there on the
answers are equal, and the layers keep them so.
-/

namespace ReportServer

/-! ## Definitions -/

namespace Report

/-- Two definitions of one report as its callers know it; the query is not part of that. -/
structure Definition.Alike (d e : Definition) : Prop where
  id : d.id = e.id
  name : d.name = e.name
  extension : d.extension = e.extension
  sheetNumber : d.sheetNumber = e.sheetNumber

namespace Definition.Alike

variable {d e : Definition}

theorem summary (h : d.Alike e) : Summary.ofDefinition d = Summary.ofDefinition e := by
  simp only [Summary.ofDefinition, Definition.downloadUrl, h.id, h.name, h.extension]

/-- The file of a report is made without looking at its query. -/
theorem encode (h : d.Alike e) (pack : Workbook → List UInt8) (t : Table) (moment : Moment) :
    d.encode pack t moment = e.encode pack t moment := by
  have hsheet : d.sheetName = e.sheetName := by
    simp only [Definition.sheetName, h.name, h.sheetNumber]
  have hfile : d.filename moment = e.filename moment := by
    simp only [Definition.filename, h.name, h.extension]
  have hbytes : d.encodedBytes pack t = e.encodedBytes pack t := by
    simp only [Definition.encodedBytes, Definition.workbook, h.extension, hsheet]
  simp only [Definition.encode, hbytes, hfile, h.extension]

theorem listing {ds es : List Definition} (h : List.Forall₂ Definition.Alike ds es) :
    Listing.ofDefinitions ds = Listing.ofDefinitions es := by
  have hmap : ds.map Summary.ofDefinition = es.map Summary.ofDefinition := by
    induction h with
    | nil => rfl
    | cons hd _ ih => rw [List.map_cons, List.map_cons, hd.summary, ih]
  rw [Listing.ofDefinitions, Listing.ofDefinitions, hmap]

end Definition.Alike

/-- What a caller is told of a failure: which report is unknown, and nothing of any other cause. -/
def ExportError.shownId : ExportError → Option Int64
  | .notFound id => some id
  | _ => none

end Report

/-! ## Stores -/

namespace Store

open Report (Definition)

/-- Two catalogues of the same reports in the same groups. -/
structure Catalogue.Alike (c c' : Catalogue) : Prop where
  definitions : List.Forall₂ Definition.Alike c.definitions c'.definitions
  isMember : ∀ (group : String) (id : Int64), c.isMember group id = c'.isMember group id

/-- Related lists stay so when they are sorted, if the orders agree on what is related. -/
theorem forall₂_mergeSort {α β : Type} {R : α → β → Prop} {le : α → α → Bool} {le' : β → β → Bool}
    (hle : ∀ (a a' : α) (b b' : β), R a b → R a' b' → le a a' = le' b b') {xs : List α} {ys : List β}
    (h : List.Forall₂ R xs ys) : List.Forall₂ R (xs.mergeSort le) (ys.mergeSort le') := by
  obtain ⟨hlen, hzip⟩ := List.forall₂_iff_zip.mp h
  -- the pairs are sorted by their first halves, which sorts the second halves, too
  have hR : ∀ p ∈ xs.zip ys, R p.1 p.2 := fun p hp => hzip hp
  have hfst : ((xs.zip ys).mergeSort fun p q => le p.1 q.1).map Prod.fst = xs.mergeSort le := by
    rw [List.map_mergeSort (f := Prod.fst) (s := le) fun p _ q _ => rfl,
      List.map_fst_zip (Nat.le_of_eq hlen)]
  have hsnd : ((xs.zip ys).mergeSort fun p q => le p.1 q.1).map Prod.snd = ys.mergeSort le' := by
    rw [List.map_mergeSort (f := Prod.snd) (s := le')
      fun p hp q hq => hle _ _ _ _ (hR p hp) (hR q hq), List.map_snd_zip (Nat.le_of_eq hlen.symm)]
  rw [← hfst, ← hsnd, List.forall₂_map_left_iff, List.forall₂_map_right_iff, List.forall₂_same]
  intro p hp
  exact hR p (List.mem_mergeSort.mp hp)

theorem listedBefore_of_alike {d d' e e' : Definition} (h : d.Alike e) (h' : d'.Alike e') :
    listedBefore d d' = listedBefore e e' := by
  rw [listedBefore, listedBefore, h.id, h.name, h'.id, h'.name]

namespace Catalogue.Alike

variable {c c' : Catalogue} (h : c.Alike c')

include h

theorem find? (id : Int64) : Option.Rel Definition.Alike (c.find? id) (c'.find? id) := by
  have hds := h.definitions
  unfold Catalogue.find?
  generalize c.definitions = ds, c'.definitions = es at hds ⊢
  induction hds with
  | nil => exact .none
  | @cons d e ds es hd _ ih =>
      rw [List.find?_cons, List.find?_cons, hd.id]
      split
      · exact .some hd
      · exact ih

theorem list (group : Option String) : List.Forall₂ Definition.Alike (c.list group) (c'.list group) := by
  have hselect : List.Forall₂ Definition.Alike (c.select group) (c'.select group) := by
    cases group with
    | none => exact h.definitions
    | some g =>
        refine List.rel_filter ?_ h.definitions
        intro d e hd
        simp only [hd.id, h.isMember]
  refine forall₂_mergeSort ?_ hselect
  intro d d' e e' hd hd'
  exact listedBefore_of_alike hd hd'

end Catalogue.Alike

end Store

/-! ## Exports -/

namespace Export

open Report (ExportError Definition)

/-- Two answers that differ in what a caller is not told. Of failures only an unknown report is told. -/
inductive SameAnswer {α β : Type} (R : α → β → Prop) : Except ExportError α → Except ExportError β → Prop where
  | ok {a : α} {b : β} : R a b → SameAnswer R (.ok a) (.ok b)
  | error {e f : ExportError} : e.shownId = f.shownId → SameAnswer R (.error e) (.error f)

namespace SameAnswer

theorem refl {α : Type} (x : Except ExportError α) : SameAnswer Eq x x := by
  cases x with
  | ok a => exact .ok rfl
  | error e => exact .error rfl

/-- One stage after the other. -/
theorem bind {α β γ δ : Type} {R : α → β → Prop} {S : γ → δ → Prop} {x : Except ExportError α}
    {y : Except ExportError β} {f : α → Except ExportError γ} {g : β → Except ExportError δ}
    (h : SameAnswer R x y)
    (hfg : ∀ (a : α) (b : β), x = .ok a → y = .ok b → R a b → SameAnswer S (f a) (g b)) :
    SameAnswer S (x.bind f) (y.bind g) := by
  cases h with
  | ok hab => exact hfg _ _ rfl rfl hab
  | error hef => exact .error hef

end SameAnswer

/-- Two services whose collaborators say the same about what callers may know. The recorders play no part. -/
structure Service.Alike (s t : Service) : Prop where
  outputBase : s.outputBase = t.outputBase
  pack : s.pack = t.pack
  /-- The stores have the same reports, -/
  find : ∀ id : Int64, SameAnswer (Option.Rel Definition.Alike)
    (s.collaborators.find id).value (t.collaborators.find id).value
  /-- list them alike, -/
  list : ∀ group : Option String, SameAnswer (List.Forall₂ Definition.Alike)
    (s.collaborators.list group).value (t.collaborators.list group).value
  /-- and the queries they have for one report come to the same table, or both to none. -/
  execute : ∀ (id : Int64) (d e : Definition), (s.collaborators.find id).value = .ok (some d) →
    (t.collaborators.find id).value = .ok (some e) →
    SameAnswer Eq (s.collaborators.execute d.query).value (t.collaborators.execute e.query).value

namespace Service.Alike

variable {s t : Service} (h : s.Alike t)

include h

theorem resolve (id : Int64) : SameAnswer Definition.Alike (s.resolve id).value (t.resolve id).value := by
  have hfind := h.find id
  rw [value_resolve, value_resolve]
  generalize (s.collaborators.find id).value = x, (t.collaborators.find id).value = y at hfind ⊢
  cases hfind with
  | error hef => exact .error hef
  | ok hfound =>
      cases hfound with
      | none => exact .error rfl
      | some hd => exact .ok hd

theorem offer (id : Int64) (user : Directory.User) (a : Report.Artifact) :
    s.offer id user a = t.offer id user a := by
  rw [Service.offer, Service.offer, h.outputBase]

/-- **An export starts alike at both**, and what it offers is the same. -/
theorem start (id : Int64) (user : Directory.User) (moment : Moment) :
    SameAnswer Eq (s.start id user moment).value (t.start id user moment).value := by
  rw [value_start, value_start]
  refine (h.resolve id).bind fun d e hd he hde => ?_
  have htable := h.execute id d e (resolve_eq_ok.mp hd) (resolve_eq_ok.mp he)
  refine htable.bind fun x y _ _ hxy => ?_
  subst hxy
  rw [hde.encode, h.pack]
  have hoffer : s.offer id user = t.offer id user := funext (h.offer id user)
  rw [hoffer]
  exact .refl _

end Service.Alike

end Export

/-! ## Handlers -/

namespace Api

open Http (Request Response Route)

/-- Two answers of the directory to one token. Why the directory could not answer is not told. -/
inductive SameHolder : Except Directory.LookupError Directory.User →
    Except Directory.LookupError Directory.User → Prop where
  | known (user : Directory.User) : SameHolder (.ok user) (.ok user)
  | unknown : SameHolder (.error .userNotFound) (.error .userNotFound)
  | unavailable (detail detail' : String) :
      SameHolder (.error (.unavailable detail)) (.error (.unavailable detail'))

/-- Two servers that differ in what callers are not told. -/
structure App.Alike (a b : App) : Prop where
  hsts : a.hsts = b.hsts
  cors : a.cors = b.cors
  service : a.service.Alike b.service
  lookUp : ∀ token : String, SameHolder (a.lookUp token).value (b.lookUp token).value

/-- The same moment and the same luck; the database, the log and the measures may differ. -/
structure Surroundings.Alike (s t : Surroundings) : Prop where
  moment : s.moment = t.moment
  freshId : s.freshId = t.freshId
  overdue : s.overdue = t.overdue

/-- The refusal of an export says no more than which report is unknown. -/
theorem value_reject_ofExport (e : Report.ExportError) : (reject (.ofExport e)).value
    = match e.shownId with
      | some id => (reject (.notFound (Report.ExportError.notFound id).message)).value
      | none => (reject (.internal "")).value := by
  cases e <;> rfl

theorem reject_of_shownId {e f : Report.ExportError} (h : e.shownId = f.shownId) :
    (reject (.ofExport e)).value = (reject (.ofExport f)).value := by
  rw [value_reject_ofExport, value_reject_ofExport, h]

theorem holderOf_of_sameHolder {lookUp lookUp' : LookUp} {token : String}
    (h : SameHolder (lookUp token).value (lookUp' token).value) :
    (holderOf lookUp token).value = (holderOf lookUp' token).value := by
  simp only [holderOf, Trail.Traced.value_bind]
  generalize (lookUp token).value = x, (lookUp' token).value = y at h ⊢
  cases h with
  | known user => rfl
  | unknown => rfl
  | unavailable detail detail' => rfl

/-- Who calls, or why nobody does, is the same with both directories. -/
theorem requireUser_of_sameHolder {lookUp lookUp' : LookUp}
    (h : ∀ token : String, SameHolder (lookUp token).value (lookUp' token).value) (headers : Http.Headers) :
    (requireUser lookUp headers).value = (requireUser lookUp' headers).value := by
  unfold requireUser
  cases bearerToken headers with
  | none => rfl
  | some token =>
      simp only [Trail.Traced.value_bind]
      rw [holderOf_of_sameHolder (h token)]

section Handlers

variable {s t : Export.Service} (h : s.Alike t) (user : Directory.User)

include h

theorem listReports_of_alike (r : Request) : (listReports s user r).value = (listReports t user r).value := by
  unfold listReports
  cases groupOf r.queryPairs with
  | error response => rfl
  | ok group =>
      simp only
      cases groupFault group with
      | some e => rfl
      | none =>
          have hlist := h.list group
          simp only [Export.Service.list, Trail.Traced.value_bind]
          generalize (s.collaborators.list group).value = x, (t.collaborators.list group).value = y at hlist ⊢
          cases hlist with
          | error hef => exact reject_of_shownId hef
          | ok hds =>
              show Response.json 200 _ = Response.json 200 _
              rw [Report.Definition.Alike.listing hds]

theorem exportReport_of_alike (moment : Moment) (segment : String) :
    (exportReport s user moment segment).value = (exportReport t user moment segment).value := by
  unfold exportReport
  cases idOfSegment segment with
  | error response => rfl
  | ok id =>
      simp only
      cases Name.checkReportId id with
      | error f => rfl
      | ok _ =>
          have hstart := h.start id user moment
          simp only [Trail.Traced.value_bind]
          generalize (s.start id user moment).value = x, (t.start id user moment).value = y at hstart ⊢
          cases hstart with
          | error hef => exact reject_of_shownId hef
          | ok ho => rw [ho]

end Handlers

/-! ## The whole server -/

namespace App

variable {a b : App} {s t : Surroundings} {r : Request}

theorem protectedHandler_of_alike (h : a.Alike b) (hs : s.Alike t) (user : Directory.User) (route : Route) :
    (readsOnly (a.protectedHandler s user route) r).value
      = (readsOnly (b.protectedHandler t user route) r).value := by
  unfold readsOnly
  split
  · cases route with
    | reports => exact listReports_of_alike h.service user r
    | report segment =>
        show (exportReport a.service user s.moment segment).value = _
        rw [hs.moment]
        exact exportReport_of_alike h.service user t.moment segment
    | health | ready | live | metrics => rfl
  · rfl

theorem dispatch_of_alike (h : a.Alike b) (hs : s.Alike t)
    (hr : ∀ route : Route, Route.ofPath r.path = some route → route.isProtected = true) :
    (a.dispatch s r).value = (b.dispatch t r).value := by
  unfold dispatch
  cases hroute : Route.ofPath r.path with
  | none => rfl
  | some route =>
      simp only [hr route hroute, if_true, Trail.Traced.value_bind]
      rw [requireUser_of_sameHolder h.lookUp]
      cases (requireUser b.lookUp r.headers).value with
      | error e => rfl
      | ok user => exact protectedHandler_of_alike h hs user route

/--
**No query and no detail of a failure reaches a caller.** Two servers with the same policies, whose
stores have the same reports but for their queries and origins, whose queries come to the same tables
or both to none, and whose directories know the same callers, answer every request outside the public
routes alike, in status, headers and body.
-/
theorem respond_eq_of_alike (h : a.Alike b) (hs : s.Alike t)
    (hr : ∀ route : Route, Route.ofPath r.path = some route → route.isProtected = true) :
    (a.respond s r).value = (b.respond t r).value
      ∧ ∀ mode : Delivery.ReadMode,
          (exchange a s mode r).value.response = (exchange b t mode r).value.response
            ∧ (exchange a s mode r).value.body = (exchange b t mode r).value.body := by
  have heq : (a.respond s r).value = (b.respond t r).value := by
    rw [value_respond, value_respond, dispatch_of_alike h hs hr]
    exact finished_congr r h.hsts h.cors hs.freshId hs.overdue _
  refine ⟨heq, fun mode => ?_⟩
  obtain ⟨hresponse, hbody⟩ := value_exchange a s mode r
  obtain ⟨hresponse', hbody'⟩ := value_exchange b t mode r
  rw [hresponse, hresponse', hbody, hbody', heq]
  exact ⟨rfl, rfl⟩

end App

/-- A server with the one report 7, all queries of which fail, and whose directory cannot be asked
about any token but `t`. -/
def sampleServer (query : String) (failure : Report.ExportError) (detail : String) : App where
  service :=
    let catalogue := Store.Catalogue.ofDefinitions
      [⟨7, "r", query, .csv, 1, none, ⟨⟨2024, 2, 3⟩, 0, 0, 0, 0⟩⟩]
    { collaborators :=
        { find := fun id => pure (.ok (catalogue.find? id))
          list := fun group => pure (.ok (catalogue.list group))
          execute := fun _ => pure (.error failure)
          record := fun _ => pure (.ok ()) }
      outputBase := "out"
      pack := fun _ => [] }
  lookUp := fun token =>
    if token = "t" then pure (.ok ⟨"1", "Ann", none, "ann"⟩) else pure (.error (.unavailable detail))
  provider := "graph"
  hsts := true
  cors := .anyone

theorem sampleServer_alike (query query' detail detail' : String) {failure failure' : Report.ExportError}
    (hf : failure.shownId = failure'.shownId) :
    (sampleServer query failure detail).Alike (sampleServer query' failure' detail') where
  hsts := rfl
  cors := rfl
  service :=
    have hcatalogue : Store.Catalogue.Alike
        (.ofDefinitions [⟨7, "r", query, .csv, 1, none, ⟨⟨2024, 2, 3⟩, 0, 0, 0, 0⟩⟩])
        (.ofDefinitions [⟨7, "r", query', .csv, 1, none, ⟨⟨2024, 2, 3⟩, 0, 0, 0, 0⟩⟩]) :=
      ⟨.cons ⟨rfl, rfl, rfl, rfl⟩ .nil, fun _ _ => rfl⟩
    { outputBase := rfl
      pack := rfl
      find := fun id => .ok (hcatalogue.find? id)
      list := fun group => .ok (hcatalogue.list group)
      execute := fun _ _ _ _ _ => .error hf }
  lookUp := fun token => by
    unfold sampleServer
    dsimp only
    split
    · exact .known _
    · exact .unavailable detail detail'

/-- A request for the report of the sample servers. -/
def sampleRequest : Request := ⟨"GET", "", "/api/v1/reports/7", none, [("authorization", "Bearer t")]⟩

/-- What the request finds around it. -/
def sampleSurroundings : Surroundings := ⟨⟨⟨2024, 2, 3⟩, 4, 5, 6, 0⟩, "id", none, none, false, .silent⟩

/-- Two queries that fail for different reasons look the same from the outside. -/
theorem respond_eq_of_alike_failed_query :
    ((sampleServer "SELECT a" (.database "no such table: a") "timeout").respond sampleSurroundings
        sampleRequest).value
      = ((sampleServer "SELECT b" (.malformed 1 2 3) "refused").respond sampleSurroundings
        sampleRequest).value := by
  have hpath : Route.ofPath sampleRequest.path = some (.report "7") := by decide
  have hr : ∀ route : Route, Route.ofPath sampleRequest.path = some route → route.isProtected = true := by
    intro route hroute
    rw [hpath] at hroute
    obtain rfl := Option.some.inj hroute
    rfl
  have halike : (sampleServer "SELECT a" (.database "no such table: a") "timeout").Alike
      (sampleServer "SELECT b" (.malformed 1 2 3) "refused") := sampleServer_alike _ _ _ _ rfl
  exact (App.respond_eq_of_alike halike ⟨rfl, rfl, rfl⟩ hr).1

end Api

end ReportServer
