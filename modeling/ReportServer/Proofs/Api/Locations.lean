import ReportServer.Proofs.Api.Authors
import ReportServer.Proofs.Text.Stripping

/-!
# Where tracking records say a file is

The output location of a file begins as the base does under which it is kept, with one exception. Slashes at the end of
a base do not count, and a base of nothing but slashes is all end. It is taken for no base at all, and the locations
under it are relative, although the base itself is not. So it is with the tracking records: each says what the service
that made the file has for a base, and whether its location is absolute depends on that base alone, not on the report,
the caller, or whatever else goes on.
-/

namespace ReportServer

namespace Report

/-- A location is absolute if it starts with a slash. -/
def IsAbsolute (location : String) : Prop := location.toList.head? = some '/'

/-- `IsSlashes base`: there is nothing in the base but slashes, if there is anything. -/
def IsSlashes (base : String) : Prop := ∀ c ∈ base.toList, c = '/'

/-- A number of slashes. -/
def slashes (n : Nat) : String := String.ofList (List.replicate n '/')

variable {base filename : String} {e : Extension}

theorem toList_dropTrailingSlashes (base : String) :
    (Text.dropTrailingSlashes base).toList = Text.dropRight (· == '/') base.toList := String.toList_ofList

theorem isSlashes_iff : IsSlashes base ↔ Text.dropTrailingSlashes base = "" := by
  rw [← String.toList_inj, toList_dropTrailingSlashes, String.toList_empty, IsSlashes]
  constructor
  · intro h
    exact Text.dropRight_append_of_forall (s := []) fun c hc => beq_iff_eq.mpr (h c hc)
  · intro h c hc
    obtain ⟨rear, hbase, hrear⟩ := Text.exists_of_dropRight (· == '/') base.toList
    rw [h, List.nil_append] at hbase
    exact beq_iff_eq.mp (hrear c (hbase ▸ hc))

/-- **A location is absolute exactly if its base is**, and the base is more than slashes. -/
theorem isAbsolute_outputLocation_iff :
    IsAbsolute (outputLocation base e filename) ↔ IsAbsolute base ∧ ¬IsSlashes base := by
  obtain ⟨rear, hbase, -⟩ := Text.exists_of_dropRight (· == '/') base.toList
  rw [isSlashes_iff, IsAbsolute, IsAbsolute, outputLocation, hbase, ← toList_dropTrailingSlashes]
  cases hleft : (Text.dropTrailingSlashes base).toList with
  | nil =>
      -- the location starts with the folder
      have hempty : Text.dropTrailingSlashes base = "" := String.toList_eq_nil_iff.mp hleft
      rw [hempty]
      refine iff_of_false ?_ fun h => h.2 rfl
      cases e <;> simp [Extension.folder]
  | cons c rest =>
      have hne : Text.dropTrailingSlashes base ≠ "" := by
        rw [Ne, ← String.toList_eq_nil_iff, hleft]
        simp
      simp [hne, hleft]

theorem outputLocation_slashes (base : String) (n : Nat) (e : Extension) (filename : String) :
    outputLocation (base ++ slashes n) e filename = outputLocation base e filename := by
  have hall : ∀ c ∈ List.replicate n '/', (c == '/') = true := fun c hc => beq_iff_eq.mpr (List.eq_of_mem_replicate hc)
  have hdrop : Text.dropTrailingSlashes (base ++ slashes n) = Text.dropTrailingSlashes base := by
    rw [← String.toList_inj, toList_dropTrailingSlashes, toList_dropTrailingSlashes, String.toList_append, slashes,
      String.toList_ofList, Text.dropRight_append_of_forall hall]
  rw [outputLocation, hdrop, outputLocation]

end Report

namespace Api

open Export (Closing Desk Move Opening closings openings writtenBy)
open Http (Request Route)
open Report (Definition IsAbsolute IsSlashes outputLocation slashes)

variable {a : App} {s : Surroundings} {r : Request} {e : Export.InFlight}

/-! ## Exports of a server -/

/-- `StartedBy service e`: the export is what the service has started for somebody. -/
def StartedBy (service : Export.Service) (e : Export.InFlight) : Prop :=
  ∃ (id : Int64) (user : Directory.User) (moment : Moment) (offer : Export.Offer),
    (service.start id user moment).value = .ok offer ∧ offer.inFlight = e

theorem StartedBy.exists_outputLocation {service : Export.Service} (h : StartedBy service e) :
    ∃ (x : Report.Extension) (filename : String), e.outputLocation = outputLocation service.outputBase x filename := by
  obtain ⟨id, user, moment, offer, hstart, rfl⟩ := h
  obtain ⟨d, artifact, hstarts⟩ := Export.Service.start_eq_ok.mp hstart
  exact ⟨d.extension, artifact.filename, by rw [hstarts.offer]⟩

/-- What is under way behind an answer was started by the service of the server. -/
theorem startedBy_of_dispatch (h : (a.dispatch s r).value.export? = some e) : StartedBy a.service e := by
  obtain ⟨hread, route, hroute, hp⟩ := exists_route_of_dispatch h
  rw [App.dispatch_of_protected hread hroute hp, Trail.Traced.value_bind] at h
  cases huser : (requireUser a.lookUp r.headers).value with
  | error err =>
      rw [huser] at h
      exact absurd ((refuses_reject err).body.symm.trans h) (by simp)
  | ok user =>
      rw [huser] at h
      -- of the two handlers that know their caller, the listing starts nothing
      cases route with
      | reports => exact absurd ((export_listReports a.service user).symm.trans h) (by simp)
      | report segment =>
          obtain ⟨id, offer, -, hstart, hoffer⟩ := exists_start_of_exportReport h
          exact ⟨id, user, s.moment, offer, hstart, hoffer⟩
      | health | ready | live | metrics => exact absurd hp (by simp [Route.isProtected])

/-- Every record of a server says of a file that it is below the base of the service. -/
theorem exists_outputLocation_of_mem_recordsOf {asks : List Ask} {before : List Trail.Entry}
    {entry : Report.Tracking} (h : entry ∈ recordsOf (visits a s before asks)) :
    ∃ (x : Report.Extension) (filename : String),
      entry.outputLocation = outputLocation a.service.outputBase x filename := by
  obtain ⟨ask, -, before', hleft⟩ := exists_exchange_of_mem_recordsOf h
  obtain ⟨e, he, rfl⟩ := exists_export_of_recorded hleft
  rw [App.value_respond] at he
  exact (startedBy_of_dispatch (export_of_finished he)).exists_outputLocation

/-- So does every record at a desk, of the service that had started the export. -/
theorem exists_outputLocation_of_writtenBy {moves : List Move} {d : Desk} (h : Desk.idle.run moves = some d)
    {c : Closing} (hc : c ∈ closings moves) {entry : Report.Tracking} (hentry : writtenBy moves c = some entry) :
    ∃ o : Opening, (openings moves)[c.job]? = some o ∧ ∃ (x : Report.Extension) (filename : String),
      entry.outputLocation = outputLocation o.service.outputBase x filename := by
  obtain ⟨o, def_, artifact, offer, out, hsaw, hiff⟩ := (Export.told_of_run h).written hc
  obtain ⟨-, -, rfl⟩ := (hiff entry).mp hentry
  refine ⟨o, hsaw.asked, def_.extension, artifact.filename, ?_⟩
  rw [Export.Opening.record]

/-! ## At the top -/

/-- `KeptBelow base`: how the locations below a base begin. -/
structure KeptBelow (base : String) : Prop where
  /-- A location is absolute exactly if the base is, and is more than slashes. -/
  located : ∀ (x : Report.Extension) (filename : String),
    IsAbsolute (outputLocation base x filename) ↔ IsAbsolute base ∧ ¬IsSlashes base
  /-- How many slashes stand at the end of the base makes no difference. -/
  trailing : ∀ (n : Nat) (x : Report.Extension) (filename : String),
    outputLocation (base ++ slashes n) x filename = outputLocation base x filename
  /-- At a server that keeps its files below the base, every record has a location like that. -/
  served : ∀ a : App, a.service.outputBase = base → ∀ (s : Surroundings) (before : List Trail.Entry) (asks : List Ask),
    ∀ entry ∈ recordsOf (visits a s before asks),
      IsAbsolute entry.outputLocation ↔ IsAbsolute base ∧ ¬IsSlashes base
  /-- At a desk where many exports are under way, so has every record of an export whose service does. -/
  exported : ∀ (moves : List Move) (d : Desk), Desk.idle.run moves = some d →
    d.records = (closings moves).filterMap (writtenBy moves)
      ∧ ∀ c ∈ closings moves, ∀ entry : Report.Tracking, writtenBy moves c = some entry →
        ∃ o : Opening, (openings moves)[c.job]? = some o ∧ (o.service.outputBase = base →
          (IsAbsolute entry.outputLocation ↔ IsAbsolute base ∧ ¬IsSlashes base))

/-- **An absolute base keeps its locations absolute**, unless it is nothing but slashes. -/
theorem keptBelow (base : String) : KeptBelow base where
  located _ _ := Report.isAbsolute_outputLocation_iff
  trailing := Report.outputLocation_slashes base
  served := by
    rintro a rfl s before asks entry hentry
    obtain ⟨x, filename, hlocation⟩ := exists_outputLocation_of_mem_recordsOf hentry
    rw [hlocation]
    exact Report.isAbsolute_outputLocation_iff
  exported moves d h := by
    refine ⟨(Export.told_of_run h).records, fun c hc entry hentry => ?_⟩
    obtain ⟨o, ho, x, filename, hlocation⟩ := exists_outputLocation_of_writtenBy h hc hentry
    refine ⟨o, ho, ?_⟩
    rintro rfl
    rw [hlocation]
    exact Report.isAbsolute_outputLocation_iff

/-- The root is absolute, and a file below it has a relative location. -/
theorem not_isAbsolute_below_root :
    IsAbsolute "/" ∧ outputLocation "/" .csv "a.csv" = "csv/a.csv" ∧ ¬IsAbsolute (outputLocation "/" .csv "a.csv") := by
  refine ⟨rfl, rfl, ?_⟩
  rw [Report.isAbsolute_outputLocation_iff]
  rintro ⟨-, hslashes⟩
  exact hslashes (by simp [IsSlashes])

end Api

end ReportServer
