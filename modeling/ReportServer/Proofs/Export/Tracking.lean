import ReportServer.Proofs.Export.Interleaving
import ReportServer.Proofs.Export.Start
import ReportServer.Store.Recorder

/-!
# A tracking record exists exactly for what was delivered

Many exports are under way at a desk, their ends move in any order, and each is closed at some moment
after its body is gone. The records are read off the closings: one closing an export, one record a
closing at most, and that one says whose export it was and under which name the file was offered.

Everything about one export comes from its own moves (`Told`), so the record of an export cannot
carry the user or the file of another one, whatever else went on at the desk.
-/

namespace ReportServer.Export

open Delivery (Publication Outcome)
open Trail (Entry Call)
open Report (Definition Artifact)

variable {moves : List Move} {d : Desk}

/-! ## What follows the settling -/

/-- A record is written for a delivered export, if the recorder takes it. -/
theorem value_settle_eq_some {e : InFlight} {record : Record} {moment : Moment} {v : Outcome}
    {r : Report.Tracking} :
    (e.settle record moment v).value = some r ↔ (∃ n : Nat, v = .delivered n)
      ∧ (record (e.tracking moment)).value = .ok () ∧ r = e.tracking moment := by
  cases v with
  | sinkClosed => simp [InFlight.settle]
  | delivered n =>
      simp only [InFlight.settle, Trail.Traced.value_bind]
      cases (record (e.tracking moment)).value with
      | ok u => simp [eq_comm]
      | error err => simp

theorem calls_settle (e : InFlight) (record : Record) (moment : Moment) (v : Outcome) :
    Trail.calls (e.settle record moment v).trail = match v with
      | .sinkClosed => []
      | .delivered _ => .record (e.tracking moment) :: Trail.calls (record (e.tracking moment)).trail := by
  cases v with
  | sinkClosed => rfl
  | delivered n =>
      simp only [InFlight.settle, Trail.Traced.trail_bind, Trail.calls_append, Trail.calls_measure,
        Trail.calls_call, List.nil_append, List.singleton_append]
      cases (record (e.tracking moment)).value <;> simp

/-! ## What a run says about its exports -/

/-- The call of one move, with what the collaborators note themselves behind it. -/
def callsOf (moves : List Move) : Move → List Call
  | .start s id _ _ => s.startCalls id
  | .advance _ _ => []
  | .close i record moment =>
    match settledOf moves i with
    | some (e, .delivered _) => .record (e.tracking moment) :: Trail.calls (record (e.tracking moment)).trail
    | _ => []

/-- The query that a call runs, if it runs one. -/
def ranQuery? : Call → Option String
  | .execute sql => some sql
  | _ => none

/-- The queries that a trail shows to have been run. -/
def executions (trail : List Entry) : List String := (Trail.calls trail).filterMap ranQuery?

/-- The query that the store has for an export, if it has one. -/
def Opening.query? (o : Opening) : Option String :=
  match (o.service.collaborators.find o.id).value with
  | .ok (some d) => some d.query
  | _ => none

/-- Whether the collaborators of a move run no query on their own account. -/
def Move.Discreet : Move → Prop
  | .start s id _ _ => executions (s.collaborators.find id).trail = []
      ∧ ∀ sql : String, executions (s.collaborators.execute sql).trail = []
  | .advance _ _ => True
  | .close _ record _ => ∀ r : Report.Tracking, executions (record r).trail = []

/-- The record of an export: who asked for what, and where the file is, under the name it was offered. -/
def Opening.record (o : Opening) (moment : Moment) (d : Definition) (a : Artifact) : Report.Tracking :=
  ⟨o.id, moment, o.user.identity, Report.outputLocation o.service.outputBase d.extension a.filename⟩

/--
`Saw moves c o d a offer out`: what `c` closed is the export `o`. It had started with the definition `d`
and the artifact `a`, and of that its body had handed out `out` when it was gone.
-/
structure Saw (moves : List Move) (c : Closing) (o : Opening) (d : Definition) (a : Artifact)
    (offer : Offer) (out : List UInt8) : Prop where
  /-- It was asked for. -/
  asked : (openings moves)[c.job]? = some o
  /-- It started. -/
  starts : o.service.Starts o.id o.user o.moment d a offer
  /-- The file was offered under its name. -/
  named : offer.headers.first? "content-disposition" = some ("attachment; filename=\"" ++ a.filename ++ "\"")
  /-- Its own steps, and no others, have handed out `out`, and the body reads no more. -/
  handed : ∃ p : Publication,
    offer.inFlight.publication.run (stepsOf c.job moves) = some (p, out) ∧ p.body ≠ .reading

/-- What the desk says about the exports, after a run of these moves. -/
structure Tracks (moves : List Move) (d : Desk) : Prop where
  /-- An export at the desk is what its own steps have made of it, -/
  alone : ∀ (i : Nat) (j : Job), d.jobs[i]? = some j →
    ∃ o : Opening, (openings moves)[i]? = some o ∧ Became o (stepsOf i moves) j
  /-- it is closed once at most, -/
  once : ((closings moves).map Closing.job).Nodup
  /-- a closing writes one record at most, and nothing else writes any. -/
  records : d.records = (closings moves).filterMap (writtenBy moves)
  /-- A closing writes a record exactly if all bytes of its export were handed out and the recorder took
  it, and the record is the export's own. -/
  written : ∀ c ∈ closings moves, ∃ (o : Opening) (d : Definition) (a : Artifact) (offer : Offer)
      (out : List UInt8), Saw moves c o d a offer out
    ∧ ∀ r : Report.Tracking, writtenBy moves c = some r ↔ out = a.bytes
        ∧ (c.record (o.record c.moment d a)).value = .ok () ∧ r = o.record c.moment d a
  /-- Whatever is settled and not closed yet can be closed. -/
  closable : ∀ i : Nat, (settledOf moves i).isSome = true → i ∉ (closings moves).map Closing.job →
    ∀ (record : Record) (moment : Moment), (d.step (.close i record moment)).isSome = true
  /-- An export that failed has no body, and it is never closed. -/
  failed : ∀ (i : Nat) (o : Opening) (e : Report.ExportError), (openings moves)[i]? = some o →
    o.start = .error e → stepsOf i moves = [] ∧ i ∉ (closings moves).map Closing.job
  /-- Records stay, and stay in order. -/
  kept : ∀ before after : List Move, moves = before ++ after →
    ∃ d' : Desk, Desk.idle.run before = some d' ∧ d'.records <+: d.records
  /-- A recorder that keeps records in memory ends up with these behind what it had. -/
  stored : ∀ r : Store.Recorder,
    (∀ c ∈ closings moves, ∀ entry : Report.Tracking, (c.record entry).value = r.verdict) →
    d.records.foldlM Store.Recorder.record r = .ok { r with records := r.records ++ d.records }
  /-- Nobody is called but by these moves. -/
  called : Trail.calls d.trail = moves.flatMap (callsOf moves)
  /-- The query of each export that the store resolves is run once, and no other query is. -/
  executed : (∀ m ∈ moves, m.Discreet) → executions d.trail = (openings moves).filterMap Opening.query?

/-! ## Records and closings -/

theorem Told.exists_saw (h : Told moves d) {c : Closing} (hc : c ∈ closings moves) :
    ∃ (o : Opening) (d : Definition) (a : Artifact) (offer : Offer) (out : List UInt8),
      Saw moves c o d a offer out
        ∧ settledOf moves c.job = some (offer.inFlight,
            if out = a.bytes then .delivered a.bytes.length else .sinkClosed) := by
  obtain ⟨⟨e, v⟩, hx⟩ := Option.isSome_iff_exists.mp (h.settled c hc)
  obtain ⟨o, offer, p, out, ho, hs, hp, hv, rfl⟩ := settledOf_eq_some.mp hx
  obtain ⟨def_, a, hstarts⟩ := Service.start_eq_ok.mp hs
  have hstart : offer.inFlight.publication = .start a.bytes := by rw [hstarts.offer]
  have hacc : p.Accounts a.bytes out := by
    rw [hstart] at hp
    exact (Publication.accounts_start a.bytes).run hp
  obtain ⟨hbody, hv'⟩ := hacc.outcome_eq_some_iff.mp hv
  refine ⟨o, def_, a, offer, out, ⟨ho, hstarts, hstarts.disposition, p, hp, hbody⟩, ?_⟩
  rw [hx, hv']

theorem Saw.tracking {c : Closing} {o : Opening} {d : Definition} {a : Artifact} {offer : Offer}
    {out : List UInt8} (h : Saw moves c o d a offer out) :
    offer.inFlight.tracking c.moment = o.record c.moment d a := by
  rw [h.starts.offer]
  rfl

theorem Told.written (h : Told moves d) {c : Closing} (hc : c ∈ closings moves) :
    ∃ (o : Opening) (d : Definition) (a : Artifact) (offer : Offer) (out : List UInt8),
      Saw moves c o d a offer out
        ∧ ∀ r : Report.Tracking, writtenBy moves c = some r ↔ out = a.bytes
            ∧ (c.record (o.record c.moment d a)).value = .ok () ∧ r = o.record c.moment d a := by
  obtain ⟨o, def_, a, offer, out, hsaw, hx⟩ := h.exists_saw hc
  refine ⟨o, def_, a, offer, out, hsaw, fun r => ?_⟩
  rw [writtenBy, hx, Option.bind_some, value_settle_eq_some, hsaw.tracking]
  refine and_congr_left fun _ => ?_
  by_cases hout : out = a.bytes
  · simp [hout]
  · simp [hout]

theorem Told.closable (h : Told moves d) {i : Nat} (hset : (settledOf moves i).isSome = true)
    (hnot : i ∉ (closings moves).map Closing.job) (record : Record) (moment : Moment) :
    (d.step (.close i record moment)).isSome = true := by
  obtain ⟨⟨e, v⟩, hx⟩ := Option.isSome_iff_exists.mp hset
  obtain ⟨o, offer, p, out, ho, hs, hp, hv, rfl⟩ := settledOf_eq_some.mp hx
  obtain ⟨j, hj, hb⟩ := h.exists_job ho
  have hopen : j.closed = false := by
    simpa using mt (h.closed hj).mp hnot
  cases hb with
  | refused he => rw [hs] at he; exact absurd he (by simp)
  | @underWay offer' p' out' closed hs' hp' =>
      rw [hs] at hs'
      obtain rfl := Except.ok.inj hs'
      rw [hp] at hp'
      obtain ⟨rfl, rfl⟩ := Prod.mk.inj (Option.some.inj hp')
      subst hopen
      simp [Desk.step, Desk.close, hj, Job.inFlight?, Except.toOption, Offer.movedTo, hv]

theorem Told.failed (h : Told moves d) {i : Nat} {o : Opening} {e : Report.ExportError}
    (ho : (openings moves)[i]? = some o) (he : o.start = .error e) :
    stepsOf i moves = [] ∧ i ∉ (closings moves).map Closing.job := by
  constructor
  · obtain ⟨j, -, hb⟩ := h.exists_job ho
    cases hb with
    | refused _ hnone => exact hnone
    | underWay hs => rw [he] at hs; exact absurd hs (by simp)
  · intro hmem
    obtain ⟨c, hc, rfl⟩ := List.mem_map.mp hmem
    obtain ⟨x, hx⟩ := Option.isSome_iff_exists.mp (h.settled c hc)
    obtain ⟨o', offer, p, out, ho', hs, -, -, -⟩ := settledOf_eq_some.mp hx
    rw [ho] at ho'
    obtain rfl := Option.some.inj ho'
    rw [he] at hs
    exact absurd hs (by simp)

/-! ## Records only grow -/

theorem records_of_made {d' : Desk} {m : Move} (h : Made d m d') : d.records <+: d'.records := by
  cases h with
  | start | advance => exact List.prefix_rfl
  | close => exact List.prefix_append _ _

theorem records_of_run {d' : Desk} (h : d.run moves = some d') : d.records <+: d'.records := by
  induction moves generalizing d with
  | nil =>
      injection h with h
      subst h
      exact List.prefix_rfl
  | cons m rest ih =>
      obtain ⟨d₁, hm, hr⟩ := Desk.run_cons.mp h
      exact (records_of_made (made_of_step hm)).trans (ih hr)

theorem foldlM_record {r : Store.Recorder} (hr : r.verdict = .ok ())
    (entries : List Report.Tracking) :
    entries.foldlM Store.Recorder.record r = .ok { r with records := r.records ++ entries } := by
  induction entries generalizing r with
  | nil => simp; rfl
  | cons entry rest ih =>
      have hr' : Store.Recorder.verdict { r with records := r.records ++ [entry] } = .ok () := hr
      rw [List.foldlM_cons, Store.Recorder.record, hr]
      show rest.foldlM Store.Recorder.record { r with records := r.records ++ [entry] } = _
      rw [ih hr', List.append_assoc, List.singleton_append]

/-- A recorder that refuses every record leaves none at the desk. -/
theorem Told.stored (h : Told moves d) {r : Store.Recorder}
    (hr : ∀ c ∈ closings moves, ∀ entry : Report.Tracking, (c.record entry).value = r.verdict) :
    d.records.foldlM Store.Recorder.record r = .ok { r with records := r.records ++ d.records } := by
  cases hv : r.verdict with
  | ok u => exact foldlM_record hv d.records
  | error e =>
      have hnone : d.records = [] := by
        rw [h.records]
        refine List.filterMap_eq_nil_iff.mpr fun c hc => ?_
        cases hw : writtenBy moves c with
        | none => rfl
        | some entry =>
            obtain ⟨o, def_, a, offer, out, -, hiff⟩ := h.written hc
            have hok := ((hiff entry).mp hw).2.1
            rw [hr c hc, hv] at hok
            exact absurd hok (by simp)
      rw [hnone, List.append_nil]
      rfl

/-! ## Who is called -/

theorem Told.called (h : Told moves d) : Trail.calls d.trail = moves.flatMap (callsOf moves) := by
  rw [Trail.calls, h.noted Entry.call? fun _ => rfl]
  refine List.flatMap_congr fun m _ => ?_
  cases m with
  | start s id user moment => exact s.calls_start id user moment
  | advance => rfl
  | close i record moment =>
      rw [Move.noted, callsOf]
      cases settledOf moves i with
      | none => rfl
      | some x =>
          obtain ⟨e, v⟩ := x
          exact (calls_settle e record moment v).trans (by cases v <;> rfl)

theorem executions_startCalls {s : Service} {id : Int64} {user : Directory.User} {moment : Moment}
    (h : (Move.start s id user moment).Discreet) :
    (s.startCalls id).filterMap ranQuery?
      = (Opening.query? ⟨s, id, user, moment⟩).toList := by
  obtain ⟨hfind, hexecute⟩ := h
  rw [Service.startCalls, List.filterMap_cons_none rfl, List.filterMap_append, Opening.query?]
  rw [executions] at hfind
  rw [hfind, List.nil_append]
  cases (s.collaborators.find id).value with
  | error e => rfl
  | ok found =>
      cases found with
      | none => rfl
      | some d =>
          have hown := hexecute d.query
          rw [executions] at hown
          have hrun : ranQuery? (.execute d.query) = some d.query := rfl
          show (Call.execute d.query :: _).filterMap ranQuery? = [d.query]
          rw [List.filterMap_cons_some hrun, hown]

theorem executions_callsOf {m : Move} (h : m.Discreet) :
    (callsOf moves m).filterMap ranQuery? = (m.opening?.bind Opening.query?).toList := by
  cases m with
  | start s id user moment => exact executions_startCalls h
  | advance => rfl
  | close i record moment =>
      rw [callsOf]
      split
      · rename_i e n _
        have hown := h (e.tracking moment)
        rw [executions] at hown
        rw [List.filterMap_cons_none rfl, hown]
        rfl
      · rfl

theorem Told.executed (h : Told moves d) (hd : ∀ m ∈ moves, m.Discreet) :
    executions d.trail = (openings moves).filterMap Opening.query? := by
  rw [executions, h.called, List.filterMap_flatMap, openings, List.filterMap_filterMap,
    List.filterMap_eq_flatMap_toList]
  exact List.flatMap_congr fun m hm => executions_callsOf (hd m hm)

/-! ## At the top -/

/--
**A tracking record exists exactly for what was delivered**, in every run of the desk: for any number of
exports, whatever their collaborators answer, and in whatever order their ends move and they are closed.
-/
theorem tracks_of_run (h : Desk.idle.run moves = some d) : Tracks moves d := by
  have ht := told_of_run h
  constructor
  case once => exact ht.once
  case records => exact ht.records
  case called => exact ht.called
  case executed => exact ht.executed
  case alone =>
    intro i j hj
    exact ht.exists_opening hj
  case written =>
    intro c hc
    exact ht.written hc
  case closable =>
    intro i hset hnot record moment
    exact ht.closable hset hnot record moment
  case failed =>
    intro i o e ho he
    exact ht.failed ho he
  case kept =>
    intro before after hsplit
    rw [hsplit] at h
    obtain ⟨d', hbefore, hafter⟩ := Desk.run_append.mp h
    exact ⟨d', hbefore, records_of_run hafter⟩
  case stored =>
    intro r hr
    exact ht.stored hr

/-- A service that has every report, as a CSV of the one cell `x`. -/
def sampleService : Service where
  collaborators :=
    { find := fun id => pure (.ok (some ⟨id, "r", "SELECT 1", .csv, 1, none, ⟨⟨2024, 2, 3⟩, 0, 0, 0, 0⟩⟩))
      list := fun _ => pure (.ok [])
      execute := fun _ => pure (.ok ⟨[⟨"a", .text⟩], [[.text "x"]], by decide⟩)
      record := fun _ => pure (.ok ()) }
  outputBase := "out"
  pack := fun _ => []

/-- Two exports by turns. The first one's body is dropped half way, the second one's is read to its end. -/
def sampleMoves : List Move :=
  let moment : Moment := ⟨⟨2024, 2, 3⟩, 4, 5, 6, 0⟩
  [.start sampleService 5 ⟨"1", "Ann", none, "ann"⟩ moment,
    .start sampleService 6 ⟨"2", "Bob", none, "bob"⟩ moment,
    .advance 0 (.push 4), .advance 1 (.push 4), .advance 0 (.poll 2), .advance 1 (.poll 4),
    .advance 0 .drop, .close 0 sampleService.collaborators.record moment, .advance 1 .shut,
    .advance 1 (.poll 1), .close 1 sampleService.collaborators.record moment]

/-- Of the two exports the second one is tracked, for the one who asked for it. -/
theorem tracks_of_run_by_turns : ∃ d : Desk, Desk.idle.run sampleMoves = some d
    ∧ d.records = [⟨6, ⟨⟨2024, 2, 3⟩, 4, 5, 6, 0⟩, "bob", "out/csv/r_20240203_040506.csv"⟩] := by
  have hrun : (Desk.idle.run sampleMoves).isSome = true := by decide +kernel
  have hwritten : (closings sampleMoves).filterMap (writtenBy sampleMoves)
      = [⟨6, ⟨⟨2024, 2, 3⟩, 4, 5, 6, 0⟩, "bob", "out/csv/r_20240203_040506.csv"⟩] := by decide +kernel
  obtain ⟨d, hd⟩ := Option.isSome_iff_exists.mp hrun
  exact ⟨d, hd, (tracks_of_run hd).records.trans hwritten⟩

end ReportServer.Export
