import ReportServer.Database.Collaborators
import ReportServer.Proofs.Database.Measures
import ReportServer.Proofs.Database.Query
import ReportServer.Proofs.Export.Tracking
import Mathlib.Data.List.Nodup
import Mathlib.Data.List.Perm.Basic

/-!
# The measures of exports balance

Exports are counted in two places: a start that fails is counted at once, and what became of the others
is counted when they are closed, maybe long after. Once a desk is quiet each export has been through
exactly one of these places, exactly once.

So every export has one `Fate`, and its fate says which points it has added to which series and whether
there is a record of it. What the desk has measured is what the fates say, put together in some order,
and all totals are sums over fates.
-/

namespace ReportServer.Export

open Delivery (Publication Outcome)
open Report (ExportError Definition Artifact Extension)
open Trail (Entry Measure Point)

variable {moves : List Move} {d : Desk}

/-! ## Measures of exports -/

/-- Whether a measure is about an export: how it ended, how many bytes it had, or a record that was lost. -/
def aboutExport : Measure → Bool
  | .reportExported _ | .exportBytes .. | .exportFailed _ | .trackingFailed => true
  | _ => false

/-- The measures of a trail that are about exports. -/
def exportMeasures (trail : List Entry) : List Measure := (Trail.measures trail).filter aboutExport

/-- The points that a trail has added to these series. -/
def added (series : List String) (trail : List Entry) : List Point :=
  ((Trail.measures trail).flatMap Measure.points).filter (·.name ∈ series)

@[simp] theorem exportMeasures_nil : exportMeasures [] = [] := rfl

@[simp] theorem exportMeasures_append (a b : List Entry) :
    exportMeasures (a ++ b) = exportMeasures a ++ exportMeasures b := by
  simp [exportMeasures, Trail.measures]

@[simp] theorem exportMeasures_call (c : Trail.Call) : exportMeasures (Trail.Traced.call c).trail = [] := rfl

@[simp] theorem exportMeasures_measure (m : Measure) :
    exportMeasures (Trail.Traced.measure m).trail = if aboutExport m then [m] else [] := by
  cases m <;> rfl

@[simp] theorem exportMeasures_log (level : Trail.Level) (target message : String)
    (fields : List (String × Json.Value)) :
    exportMeasures (Trail.Traced.log level target message fields).trail = [] := rfl

theorem exportMeasures_eq_filterMap (trail : List Entry) :
    exportMeasures trail = trail.filterMap fun e => e.measure?.filter aboutExport := by
  rw [exportMeasures, Trail.measures, List.filter_filterMap]

/-- The series that measures about exports add to. -/
def exportSeries : List String :=
  ["reports_exported_total", "report_export_failures_total", "report_export_bytes",
    "report_tracking_failures_total"]

/-- No other measure adds to them. -/
theorem name_notMem_exportSeries {m : Measure} (hm : aboutExport m = false) {p : Point}
    (hp : p ∈ m.points) : p.name ∉ exportSeries := by
  cases m with
  | reportExported | exportBytes | exportFailed | trackingFailed => exact absurd hm (by simp [aboutExport])
  | connections =>
      simp only [Measure.points, List.mem_cons, List.not_mem_nil, or_false] at hp
      rcases hp with rfl | rfl | rfl <;> simp [exportSeries]
  | request | requestDuration | statementDuration | queryDuration | queryRows =>
      rw [List.mem_singleton.mp hp]
      simp [exportSeries]

theorem added_eq_flatMap {series : List String} (h : series ⊆ exportSeries) (trail : List Entry) :
    added series trail = (exportMeasures trail).flatMap fun m => m.points.filter (·.name ∈ series) := by
  rw [added, exportMeasures, List.filter_flatMap]
  induction Trail.measures trail with
  | nil => rfl
  | cons m rest ih =>
      rw [List.flatMap_cons, ih]
      cases hm : aboutExport m with
      | true => rw [List.filter_cons_of_pos hm, List.flatMap_cons]
      | false =>
          -- a measure that is not about exports adds to none of these series
          have hnone : m.points.filter (·.name ∈ series) = [] :=
            List.filter_eq_nil_iff.mpr fun p hp => by
              simpa using fun hin => name_notMem_exportSeries hm hp (h hin)
          rw [List.filter_cons_of_neg (by simp [hm]), hnone, List.nil_append]

/-! ## What starting and settling measure -/

/-- Whether the collaborators of a move leave the measures of exports to the service. -/
def Move.Reticent : Move → Prop
  | .start s id _ _ => exportMeasures (s.collaborators.find id).trail = []
      ∧ ∀ sql : String, exportMeasures (s.collaborators.execute sql).trail = []
  | .advance _ _ => True
  | .close _ record _ => ∀ r : Report.Tracking, exportMeasures (record r).trail = []

/-- What the start of an export measures. -/
def Opening.measured (o : Opening) : List Measure :=
  exportMeasures (o.service.start o.id o.user o.moment).trail

/-- What a closing measures. -/
def measuredBy (moves : List Move) (c : Closing) : List Measure :=
  match settledOf moves c.job with
  | some (e, v) => exportMeasures (e.settle c.record c.moment v).trail
  | none => []

/-- Up to its offer an export measures nothing. -/
theorem exportMeasures_run {s : Service} {id : Int64} {user : Directory.User} {moment : Moment}
    (h : (Move.start s id user moment).Reticent) : exportMeasures (s.run id user moment).trail = [] := by
  obtain ⟨hfind, hexecute⟩ := h
  have hresolve : exportMeasures (s.resolve id).trail = [] := by
    simp only [Service.resolve, Trail.Traced.trail_bind, exportMeasures_append, exportMeasures_call,
      hfind, List.nil_append]
    cases (s.collaborators.find id).value with
    | error e => rfl
    | ok found => cases found <;> rfl
  simp only [Service.run, Trail.Traced.trail_bind, exportMeasures_append, hresolve, List.nil_append]
  cases (s.resolve id).value with
  | error e => rfl
  | ok d =>
      simp only [Service.table, Trail.Traced.trail_bind, Trail.Traced.value_bind, exportMeasures_append,
        exportMeasures_call, hexecute, List.nil_append]
      cases (s.collaborators.execute d.query).value with
      | error e => rfl
      | ok t =>
          simp only
          cases (d.encode s.pack t moment).bind (s.offer id user) <;> simp

/-- **A start measures its failure**, if it fails, and nothing else. -/
theorem measured_eq {o : Opening} (h : (Move.start o.service o.id o.user o.moment).Reticent) :
    o.measured = match o.start with
      | .error e => [.exportFailed e.reason]
      | .ok _ => [] := by
  have hstart : o.start = (o.service.run o.id o.user o.moment).value := by
    simp only [Opening.start, Service.start, Trail.Traced.value_bind]
    cases (o.service.run o.id o.user o.moment).value <;> rfl
  simp only [Opening.measured, Service.start, Trail.Traced.trail_bind, exportMeasures_append,
    exportMeasures_log, exportMeasures_run h, List.nil_append, hstart]
  cases (o.service.run o.id o.user o.moment).value <;> simp [aboutExport]

/-- **A settling measures what was delivered**, or that nothing was. -/
theorem exportMeasures_settle {i : Nat} {record : Record} {moment : Moment}
    (h : (Move.close i record moment).Reticent) (e : InFlight) (v : Outcome) :
    exportMeasures (e.settle record moment v).trail = match v with
      | .sinkClosed => [.exportFailed "publish"]
      | .delivered n => .reportExported e.format :: .exportBytes e.format n ::
          match (record (e.tracking moment)).value with
          | .ok () => []
          | .error _ => [.trackingFailed] := by
  cases v with
  | sinkClosed => rfl
  | delivered n =>
      have hown : exportMeasures (record (e.tracking moment)).trail = [] := h _
      simp only [InFlight.settle, Trail.Traced.trail_bind, exportMeasures_append, exportMeasures_measure,
        exportMeasures_call, hown, aboutExport, if_true, List.nil_append, List.singleton_append]
      cases (record (e.tracking moment)).value <;> simp [aboutExport]

/-! ## The database is reticent -/

section Database

variable (l : Database.Link)

theorem exportMeasures_find (id : Int64) : exportMeasures (Database.find l id).trail = [] := by
  rw [exportMeasures, Database.measures_find]
  rfl

theorem exportMeasures_record (entry : Report.Tracking) :
    exportMeasures (Database.record l entry).trail = [] := by
  rw [exportMeasures, Database.measures_record]
  rfl

/-- A query that is run is not an export yet. -/
theorem exportMeasures_execute (timeoutMs : Nat) (sql : String) :
    exportMeasures ((Database.QueryRunner.mk l timeoutMs).execute sql).trail = [] := by
  rw [exportMeasures, Database.QueryRunner.measures_execute]
  cases ((Database.QueryRunner.mk l timeoutMs).execute sql).value <;> rfl

theorem reticent_start_database (timeoutMs : Nat) {s : Service}
    (hs : s.collaborators = Database.collaborators l timeoutMs) (id : Int64) (user : Directory.User)
    (moment : Moment) : (Move.start s id user moment).Reticent := by
  rw [Move.Reticent, hs]
  exact ⟨exportMeasures_find l id, exportMeasures_execute l timeoutMs⟩

theorem reticent_close_database (timeoutMs i : Nat) (moment : Moment) :
    (Move.close i (Database.collaborators l timeoutMs).record moment).Reticent :=
  exportMeasures_record l

end Database

/-! ## The moves of each export -/

/-- Elements grouped by a key that is one of some keys. -/
theorem regroup_perm {α κ : Type} [DecidableEq κ] (key : α → κ) {keys : List κ} {xs : List α}
    (hn : keys.Nodup) (h : ∀ x ∈ xs, key x ∈ keys) :
    xs.Perm (keys.flatMap fun k => xs.filter fun x => key x = k) := by
  induction keys generalizing xs with
  | nil =>
      rw [List.eq_nil_iff_forall_not_mem.mpr fun x hx => List.not_mem_nil (h x hx)]
      exact .nil
  | cons k rest ih =>
      obtain ⟨hk, hn⟩ := List.nodup_cons.mp hn
      have hmem : ∀ x ∈ xs.filter fun x => !decide (key x = k), key x ∈ rest := by
        intro x hx
        obtain ⟨hx, hne⟩ := List.mem_filter.mp hx
        exact (List.mem_cons.mp (h x hx)).resolve_left (by simpa using hne)
      have hothers := ih hn hmem
      -- among the others, what has one of the other keys is what has it at all
      have hsame : ∀ k' ∈ rest, ((xs.filter fun x => !decide (key x = k)).filter fun x => key x = k')
          = xs.filter fun x => key x = k' := by
        intro k' hk'
        rw [List.filter_filter]
        refine List.filter_congr fun x _ => ?_
        have hne : k' ≠ k := fun he => hk (he ▸ hk')
        by_cases hx : key x = k'
        · simp [hx, hne]
        · simp [hx]
      rw [List.flatMap_congr hsame] at hothers
      rw [List.flatMap_cons]
      exact (List.filter_append_perm (fun x => decide (key x = k)) xs).symm.trans (hothers.append_left _)

/-- The closings of an export. -/
def closingsOf (moves : List Move) (i : Nat) : List Closing := (closings moves).filter fun c => c.job = i

/-- What the moves of an export measure. -/
def measuresOf (moves : List Move) (i : Nat) : List Measure :=
  ((openings moves)[i]?.toList.flatMap Opening.measured) ++ (closingsOf moves i).flatMap (measuredBy moves)

/-- The numbers of the exports that were asked for. -/
def numbers (moves : List Move) : List Nat := List.range (openings moves).length

/-- What is said of each place of a list is said of its elements, in order. -/
theorem flatMap_range_length {α β : Type} {xs : List α} {f : Nat → List β} {g : α → List β}
    (h : ∀ (i : Nat) (x : α), xs[i]? = some x → f i = g x) :
    (List.range xs.length).flatMap f = xs.flatMap g := by
  induction xs generalizing f with
  | nil => rfl
  | cons x rest ih =>
      rw [List.length_cons, List.range_succ_eq_map, List.flatMap_cons, List.flatMap_map, List.flatMap_cons,
        h 0 x rfl, ih fun i y hy => h (i + 1) y hy]

theorem openings_eq_flatMap : openings moves = (numbers moves).flatMap fun i => (openings moves)[i]?.toList := by
  rw [numbers, flatMap_range_length (g := fun o => [o]) fun i o ho => by rw [ho]; rfl, List.flatMap_singleton']

theorem Told.closings_perm (h : Told moves d) :
    (closings moves).Perm ((numbers moves).flatMap (closingsOf moves)) := by
  refine regroup_perm Closing.job List.nodup_range fun c hc => ?_
  rw [numbers, List.mem_range, ← h.length]
  exact h.lt_of_closed (List.mem_map_of_mem hc)

/-- Measures come from starts and closings, move by move. -/
theorem Told.exportMeasures_eq (h : Told moves d) : exportMeasures d.trail = moves.flatMap fun m =>
    (m.opening?.toList.flatMap Opening.measured) ++ (m.closing?.toList.flatMap (measuredBy moves)) := by
  rw [exportMeasures_eq_filterMap, h.noted _ fun _ => rfl]
  refine List.flatMap_congr fun m _ => ?_
  cases m with
  | start s id user moment =>
      simp [Move.noted, Move.opening?, Move.closing?, Opening.measured, exportMeasures_eq_filterMap]
  | advance => rfl
  | close i record moment =>
      simp only [Move.noted, Move.opening?, Move.closing?, measuredBy, Option.toList_none,
        Option.toList_some, List.flatMap_nil, List.flatMap_singleton, List.nil_append]
      cases settledOf moves i with
      | none => rfl
      | some x => exact (exportMeasures_eq_filterMap _).symm

/-- **A desk measures what the moves of its exports measure**, in some order. -/
theorem Told.measures_perm (h : Told moves d) :
    (exportMeasures d.trail).Perm ((numbers moves).flatMap (measuresOf moves)) := by
  have hopenings : (moves.flatMap fun m => m.opening?.toList.flatMap Opening.measured)
      = (numbers moves).flatMap fun i => (openings moves)[i]?.toList.flatMap Opening.measured := by
    rw [← List.flatMap_assoc, ← List.flatMap_assoc, ← openings_eq_flatMap, openings,
      List.filterMap_eq_flatMap_toList]
  have hclosings : (moves.flatMap fun m => m.closing?.toList.flatMap (measuredBy moves)).Perm
      ((numbers moves).flatMap fun i => (closingsOf moves i).flatMap (measuredBy moves)) := by
    rw [← List.flatMap_assoc, ← List.flatMap_assoc, ← List.filterMap_eq_flatMap_toList]
    exact h.closings_perm.flatMap_right _
  rw [h.exportMeasures_eq]
  -- first all starts, then all closings, and then both export by export
  refine (List.flatMap_append_perm _ _ _).symm.trans ?_
  refine ((List.Perm.of_eq hopenings).append hclosings).trans ?_
  exact List.flatMap_append_perm _ _ _

theorem Told.records_perm (h : Told moves d) :
    d.records.Perm ((numbers moves).flatMap fun i => (closingsOf moves i).filterMap (writtenBy moves)) := by
  rw [h.records, ← List.filterMap_flatMap]
  exact h.closings_perm.filterMap _

/-! ## The fate of an export -/

/-- What becomes of an export. -/
inductive Fate where
  /-- It did not start. -/
  | refused (e : ExportError)
  /-- Its body was given up with bytes left. -/
  | undelivered
  /-- All of its bytes were handed out, and there is a record of that. -/
  | tracked (format : Extension) (size : Nat) (record : Report.Tracking)
  /-- All of its bytes were handed out, and the record was lost. -/
  | untracked (format : Extension) (size : Nat)

namespace Fate

/-- All that an export of this fate measures. -/
def measures : Fate → List Measure
  | refused e => [.exportFailed e.reason]
  | undelivered => [.exportFailed "publish"]
  | tracked format size _ => [.reportExported format, .exportBytes format size]
  | untracked format size => [.reportExported format, .exportBytes format size, .trackingFailed]

/-- The one point that says how the export ended. -/
def ending : Fate → Point
  | refused e => ⟨.counter, "report_export_failures_total", [("reason", e.reason)], some 1⟩
  | undelivered => ⟨.counter, "report_export_failures_total", [("reason", "publish")], some 1⟩
  | tracked format .. | untracked format _ =>
    ⟨.counter, "reports_exported_total", [("format", format.name)], some 1⟩

/-- The sample of its size, if it was delivered. -/
def sample? : Fate → Option Point
  | tracked format size _ | untracked format size =>
    some ⟨.histogram, "report_export_bytes", [("format", format.name)], some size⟩
  | _ => none

/-- The record of it, if there is one. -/
def record? : Fate → Option Report.Tracking
  | tracked _ _ record => some record
  | _ => none

/-- The points that its measures add to these series. -/
def adds (series : List String) (fate : Fate) : List Point :=
  fate.measures.flatMap fun m => m.points.filter (·.name ∈ series)

/-- Whatever the fate, the export is counted once. -/
theorem adds_ending (fate : Fate) :
    fate.adds ["reports_exported_total", "report_export_failures_total"] = [fate.ending] := by
  cases fate <;> simp [adds, measures, ending, Measure.points]

theorem adds_sample (fate : Fate) : fate.adds ["report_export_bytes"] = fate.sample?.toList := by
  cases fate <;> simp [adds, measures, sample?, Measure.points]

/-- A delivery leaves a record, or its loss is counted. -/
theorem length_adds (fate : Fate) : (fate.adds ["reports_exported_total"]).length
    = fate.record?.toList.length + (fate.adds ["report_tracking_failures_total"]).length := by
  cases fate <;> simp [adds, measures, record?, Measure.points]

end Fate

/-- `Comes moves i o fate`: in the run of these moves the export `o` with the number `i` comes to `fate`. -/
inductive Comes (moves : List Move) (i : Nat) (o : Opening) : Fate → Prop where
  | refused {e : ExportError} : o.start = .error e → Comes moves i o (.refused e)
  | undelivered {c : Closing} {d : Definition} {a : Artifact} {offer : Offer} {out : List UInt8} :
      c ∈ closings moves → c.job = i → Saw moves c o d a offer out → out ≠ a.bytes →
      Comes moves i o .undelivered
  | tracked {c : Closing} {d : Definition} {a : Artifact} {offer : Offer} :
      c ∈ closings moves → c.job = i → Saw moves c o d a offer a.bytes →
      (c.record (o.record c.moment d a)).value = .ok () →
      Comes moves i o (.tracked d.extension a.bytes.length (o.record c.moment d a))
  | untracked {c : Closing} {d : Definition} {a : Artifact} {offer : Offer} {e : ExportError} :
      c ∈ closings moves → c.job = i → Saw moves c o d a offer a.bytes →
      (c.record (o.record c.moment d a)).value = .error e →
      Comes moves i o (.untracked d.extension a.bytes.length)

/-- `Accounted moves i fate`: the moves of the export with the number `i` have left what its fate says. -/
structure Accounted (moves : List Move) (i : Nat) (fate : Fate) : Prop where
  measures : measuresOf moves i = fate.measures
  record : (closingsOf moves i).filterMap (writtenBy moves) = fate.record?.toList

/-- An export that is not closed has no closings. -/
theorem closingsOf_eq_nil {i : Nat} (h : i ∉ (closings moves).map Closing.job) : closingsOf moves i = [] :=
  List.filter_eq_nil_iff.mpr fun _ hc => by
    simpa using fun hi => h (List.mem_map.mpr ⟨_, hc, hi⟩)

/-- An export that is closed has one. -/
theorem Told.closingsOf_eq (h : Told moves d) {c : Closing} (hc : c ∈ closings moves) :
    closingsOf moves c.job = [c] := by
  have hn := h.once
  obtain ⟨before, after, hsplit⟩ := List.append_of_mem hc
  rw [hsplit, List.map_append, List.map_cons, List.nodup_middle, List.nodup_cons, ← List.map_append] at hn
  -- no export is closed twice, so neither before nor after this closing is another one of the same export
  have hothers : (before ++ after).filter (fun c' => c'.job = c.job) = [] :=
    List.filter_eq_nil_iff.mpr fun c' hc' => by
      simpa using fun he => hn.1 (List.mem_map.mpr ⟨c', hc', he⟩)
  rw [List.filter_append, List.append_eq_nil_iff] at hothers
  rw [closingsOf, hsplit, List.filter_append, List.filter_cons_of_pos (by simp), hothers.1, hothers.2]
  rfl

theorem reticent_of_opening (hr : ∀ m ∈ moves, m.Reticent) {i : Nat} {o : Opening}
    (ho : (openings moves)[i]? = some o) : (Move.start o.service o.id o.user o.moment).Reticent := by
  obtain ⟨m, hm, hmo⟩ := List.mem_filterMap.mp (List.mem_of_getElem? ho)
  cases m with
  | start s id user moment =>
      obtain rfl := Option.some.inj hmo
      exact hr _ hm
  | advance | close => exact absurd hmo (by simp [Move.opening?])

theorem reticent_of_closing (hr : ∀ m ∈ moves, m.Reticent) {c : Closing} (hc : c ∈ closings moves) :
    (Move.close c.job c.record c.moment).Reticent := by
  obtain ⟨m, hm, hmc⟩ := List.mem_filterMap.mp hc
  cases m with
  | close i record moment =>
      obtain rfl := Option.some.inj hmc
      exact hr _ hm
  | advance | start => exact absurd hmc (by simp [Move.closing?])

/-- The export of a closing is accounted for once its start and its settling are. -/
theorem Told.accounted_of_closing (h : Told moves d) (hr : ∀ m ∈ moves, m.Reticent) {c : Closing}
    (hc : c ∈ closings moves) {o : Opening} {offer : Offer} {v : Outcome} {fate : Fate}
    (ho : (openings moves)[c.job]? = some o) (hs : o.start = .ok offer)
    (hx : settledOf moves c.job = some (offer.inFlight, v))
    (hm : exportMeasures (offer.inFlight.settle c.record c.moment v).trail = fate.measures)
    (hv : (offer.inFlight.settle c.record c.moment v).value = fate.record?) :
    Accounted moves c.job fate where
  measures := by
    rw [measuresOf, ho, h.closingsOf_eq hc, Option.toList_some, List.flatMap_singleton,
      List.flatMap_singleton, measured_eq (reticent_of_opening hr ho), hs, measuredBy, hx]
    exact hm
  record := by
    rw [h.closingsOf_eq hc, List.filterMap_cons, writtenBy, hx, Option.bind_some, hv]
    cases fate.record? <;> rfl

/-- At a quiet desk every export that has started is closed. -/
theorem Told.exists_closing (h : Told moves d) (hq : d.isQuiet = true) {i : Nat} {o : Opening}
    {offer : Offer} (ho : (openings moves)[i]? = some o) (hs : o.start = .ok offer) :
    ∃ c ∈ closings moves, c.job = i := by
  obtain ⟨j, hj, hb⟩ := h.exists_job ho
  have hquiet := List.all_eq_true.mp hq j (List.mem_of_getElem? hj)
  have hclosed : j.closed = true := by
    cases hb with
    | refused he =>
        rw [hs] at he
        exact absurd he (by simp)
    | underWay => simpa [Job.inFlight?, Except.toOption] using hquiet
  exact List.mem_map.mp ((h.closed hj).mp hclosed)

theorem Told.exists_fate_of_refused (h : Told moves d) (hr : ∀ m ∈ moves, m.Reticent) {i : Nat}
    {o : Opening} {e : ExportError} (ho : (openings moves)[i]? = some o) (hs : o.start = .error e) :
    ∃ fate : Fate, Comes moves i o fate ∧ Accounted moves i fate := by
  have hnone := closingsOf_eq_nil (h.failed ho hs).2
  refine ⟨.refused e, .refused hs, ?_, ?_⟩
  · rw [measuresOf, ho, hnone, Option.toList_some, List.flatMap_singleton,
      measured_eq (reticent_of_opening hr ho), hs]
    rfl
  · rw [hnone]
    rfl

theorem Told.exists_fate_of_closing (h : Told moves d) (hr : ∀ m ∈ moves, m.Reticent) {c : Closing}
    {o : Opening} (hc : c ∈ closings moves) (ho : (openings moves)[c.job]? = some o) :
    ∃ fate : Fate, Comes moves c.job o fate ∧ Accounted moves c.job fate := by
  obtain ⟨o', def_, a, offer, out, hsaw, hx⟩ := h.exists_saw hc
  obtain rfl : o = o' := Option.some.inj (ho.symm.trans hsaw.asked)
  have hs : o.start = .ok offer := Service.start_eq_ok.mpr ⟨def_, a, hsaw.starts⟩
  have hmeasures := exportMeasures_settle (reticent_of_closing hr hc) offer.inFlight
  have hformat : offer.inFlight.format = def_.extension := by rw [hsaw.starts.offer]
  -- what the body had handed out when it was gone decides between delivered and not delivered
  by_cases hout : out = a.bytes
  · subst hout
    rw [if_pos rfl] at hx
    cases hrec : (c.record (o.record c.moment def_ a)).value with
    | ok u =>
        refine ⟨_, .tracked hc rfl hsaw hrec, h.accounted_of_closing hr hc ho hs hx ?_ ?_⟩
        · rw [hmeasures, hsaw.tracking, hrec, hformat]
          rfl
        · rw [← hsaw.tracking] at hrec ⊢
          exact value_settle_eq_some.mpr ⟨⟨_, rfl⟩, hrec, rfl⟩
    | error e =>
        refine ⟨_, .untracked hc rfl hsaw hrec, h.accounted_of_closing hr hc ho hs hx ?_ ?_⟩
        · rw [hmeasures, hsaw.tracking, hrec, hformat]
          rfl
        · refine Option.eq_none_iff_forall_ne_some.mpr fun r hw => ?_
          have hok := (value_settle_eq_some.mp hw).2.1
          rw [hsaw.tracking, hrec] at hok
          exact absurd hok (by simp)
  · rw [if_neg hout] at hx
    exact ⟨_, .undelivered hc rfl hsaw hout, h.accounted_of_closing hr hc ho hs hx (hmeasures _) rfl⟩

/-- **Each export of a quiet desk has a fate**, and its moves have left what the fate says. -/
theorem Told.exists_fate (h : Told moves d) (hq : d.isQuiet = true) (hr : ∀ m ∈ moves, m.Reticent) {i : Nat}
    {o : Opening} (ho : (openings moves)[i]? = some o) :
    ∃ fate : Fate, Comes moves i o fate ∧ Accounted moves i fate := by
  cases hs : o.start with
  | error e => exact h.exists_fate_of_refused hr ho hs
  | ok offer =>
      obtain ⟨c, hc, rfl⟩ := h.exists_closing hq ho hs
      exact h.exists_fate_of_closing hr hc ho

/-! ## At the top -/

/-- What a quiet desk has measured, by the fates of its exports. -/
structure Balances (moves : List Move) (d : Desk) (fates : List Fate) : Prop where
  /-- Each export has one fate, -/
  length : fates.length = (openings moves).length
  /-- and that is what has become of it. -/
  comes : ∀ (i : Nat) (o : Opening) (fate : Fate),
    (openings moves)[i]? = some o → fates[i]? = some fate → Comes moves i o fate
  /-- Its own moves measure what the fate says, -/
  each : ∀ (i : Nat) (fate : Fate), fates[i]? = some fate → measuresOf moves i = fate.measures
  /-- and nothing else at the desk measures anything about exports. -/
  whole : (exportMeasures d.trail).Perm (fates.flatMap Fate.measures)
  /-- Each export is counted exactly once, as delivered or as failed. -/
  counted : (added ["reports_exported_total", "report_export_failures_total"] d.trail).Perm
    (fates.map Fate.ending)
  /-- The sizes are those of the delivered exports. -/
  sampled : (added ["report_export_bytes"] d.trail).Perm (fates.filterMap Fate.sample?)
  /-- The records are those of the tracked ones, -/
  recorded : d.records.Perm (fates.filterMap Fate.record?)
  /-- so what was delivered has left a record, or the loss of one is counted. -/
  balanced : (added ["reports_exported_total"] d.trail).length
    = d.records.length + (added ["report_tracking_failures_total"] d.trail).length

theorem Told.exists_fates (h : Told moves d) (hq : d.isQuiet = true) (hr : ∀ m ∈ moves, m.Reticent) :
    ∃ fates : List Fate, fates.length = (openings moves).length
      ∧ (∀ (i : Nat) (o : Opening) (fate : Fate), (openings moves)[i]? = some o → fates[i]? = some fate →
        Comes moves i o fate)
      ∧ ∀ (i : Nat) (fate : Fate), fates[i]? = some fate → Accounted moves i fate := by
  -- the fates are chosen number by number and put in a list
  have hall : ∀ i : Fin (openings moves).length,
      ∃ fate : Fate, Comes moves i (openings moves)[i] fate ∧ Accounted moves i fate := fun i =>
    h.exists_fate hq hr (List.getElem?_eq_getElem i.isLt)
  choose fateAt hcomes haccounted using hall
  refine ⟨List.ofFn fateAt, List.length_ofFn, fun i o fate ho hf => ?_, fun i fate hf => ?_⟩
  · obtain ⟨hi, rfl⟩ := List.getElem?_eq_some_iff.mp ho
    rw [List.getElem?_ofFn, dif_pos hi] at hf
    exact Option.some.inj hf ▸ hcomes ⟨i, hi⟩
  · obtain ⟨hi, rfl⟩ := List.getElem?_eq_some_iff.mp hf
    rw [List.getElem_ofFn]
    exact haccounted ⟨i, by simpa using hi⟩

/-- What a desk adds to some of the series is what the fates add to them. -/
theorem added_perm {fates : List Fate} (hw : (exportMeasures d.trail).Perm (fates.flatMap Fate.measures))
    {series : List String} (hs : series ⊆ exportSeries) :
    (added series d.trail).Perm (fates.flatMap (Fate.adds series)) := by
  rw [added_eq_flatMap hs]
  refine (hw.flatMap_right _).trans ?_
  rw [List.flatMap_assoc]
  exact .refl _

theorem length_flatMap_adds (fates : List Fate) :
    (fates.flatMap (Fate.adds ["reports_exported_total"])).length
      = (fates.filterMap Fate.record?).length
        + (fates.flatMap (Fate.adds ["report_tracking_failures_total"])).length := by
  rw [List.filterMap_eq_flatMap_toList]
  induction fates with
  | nil => rfl
  | cons fate rest ih =>
      have hfate := fate.length_adds
      simp only [List.flatMap_cons, List.length_append]
      omega

/--
**The measures of exports balance**, in every run that leaves the desk quiet: for any number of exports,
whatever comes of them, and in whatever order their ends move and they are closed.
-/
theorem balances_of_run (h : Desk.idle.run moves = some d) (hq : d.isQuiet = true)
    (hr : ∀ m ∈ moves, m.Reticent) : ∃ fates : List Fate, Balances moves d fates := by
  have ht := told_of_run h
  obtain ⟨fates, hlength, hcomes, haccounted⟩ := ht.exists_fates hq hr
  have hwhole : (exportMeasures d.trail).Perm (fates.flatMap Fate.measures) := by
    refine ht.measures_perm.trans (.of_eq ?_)
    rw [numbers, ← hlength]
    exact flatMap_range_length fun i fate hi => (haccounted i fate hi).measures
  have hrecorded : d.records.Perm (fates.filterMap Fate.record?) := by
    refine ht.records_perm.trans (.of_eq ?_)
    rw [numbers, ← hlength, List.filterMap_eq_flatMap_toList]
    exact flatMap_range_length fun i fate hi => (haccounted i fate hi).record
  refine ⟨fates, hlength, hcomes, fun i fate hi => (haccounted i fate hi).measures, hwhole, ?_, ?_,
    hrecorded, ?_⟩
  · have hadded : (added ["reports_exported_total", "report_export_failures_total"] d.trail).Perm
        (fates.flatMap (Fate.adds ["reports_exported_total", "report_export_failures_total"])) :=
      added_perm hwhole (by decide)
    rwa [List.flatMap_congr fun fate _ => fate.adds_ending, ← List.map_eq_flatMap] at hadded
  · have hadded : (added ["report_export_bytes"] d.trail).Perm
        (fates.flatMap (Fate.adds ["report_export_bytes"])) := added_perm hwhole (by decide)
    rwa [List.flatMap_congr fun fate _ => fate.adds_sample, ← List.filterMap_eq_flatMap_toList] at hadded
  · have hexported : (added ["reports_exported_total"] d.trail).Perm
        (fates.flatMap (Fate.adds ["reports_exported_total"])) := added_perm hwhole (by decide)
    have hlost : (added ["report_tracking_failures_total"] d.trail).Perm
        (fates.flatMap (Fate.adds ["report_tracking_failures_total"])) := added_perm hwhole (by decide)
    rw [hexported.length_eq, hlost.length_eq, hrecorded.length_eq]
    exact length_flatMap_adds fates

/-- A service behind which the database is down. -/
def downService : Service := ⟨Database.collaborators (.down "refused") 1000, "out", fun _ => []⟩

/-- The two exports by turns; then the database goes down, so that one export is refused and another one is
delivered and not tracked. -/
def mixedMoves : List Move :=
  let moment : Moment := ⟨⟨2024, 2, 3⟩, 4, 5, 6, 0⟩
  sampleMoves ++ [.start downService 7 ⟨"1", "Ann", none, "ann"⟩ moment,
    .start sampleService 8 ⟨"2", "Bob", none, "bob"⟩ moment, .advance 3 (.push 4), .advance 3 (.poll 4),
    .advance 3 .drop, .close 3 downService.collaborators.record moment]

/-- Four exports, two of them delivered, and one record. -/
theorem balances_of_run_mixed : ∃ (d : Desk) (fates : List Fate), Desk.idle.run mixedMoves = some d
    ∧ Balances mixedMoves d fates ∧ fates.length = 4 ∧ d.records.length = 1
    ∧ (added ["reports_exported_total"] d.trail).length = 2 := by
  have hrun : (Desk.idle.run mixedMoves).map (fun d => (d.isQuiet, d.records.length,
      (added ["reports_exported_total"] d.trail).length)) = some (true, 1, 2) := by decide +kernel
  have hreticent : ∀ m ∈ mixedMoves, m.Reticent := by
    simp only [mixedMoves, sampleMoves, List.cons_append, List.nil_append, List.forall_mem_cons]
    refine ⟨⟨rfl, fun _ => rfl⟩, ⟨rfl, fun _ => rfl⟩, trivial, trivial, trivial, trivial, trivial, fun _ => rfl,
      trivial, trivial, fun _ => rfl, ?_, ⟨rfl, fun _ => rfl⟩, trivial, trivial, trivial, ?_, ?_⟩
    · exact reticent_start_database _ _ rfl _ _ _
    · exact reticent_close_database _ _ _ _
    · exact fun m hm => absurd hm List.not_mem_nil
  obtain ⟨d, hd, hfacts⟩ := Option.map_eq_some_iff.mp hrun
  obtain ⟨hquiet, hrecords, hexported⟩ : d.isQuiet = true ∧ d.records.length = 1
      ∧ (added ["reports_exported_total"] d.trail).length = 2 := by simpa using hfacts
  obtain ⟨fates, hb⟩ := balances_of_run hd hquiet hreticent
  exact ⟨d, fates, hd, hb, hb.length, hrecords, hexported⟩

end ReportServer.Export
