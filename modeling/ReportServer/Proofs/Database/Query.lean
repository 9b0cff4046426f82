import ReportServer.Proofs.Database.Tables

/-!
# What a report's query comes to

A query comes to a table only on one way: it is prepared, all its columns have supported types, it is run, and the
driver can read every value of every row. On every other way it comes to a failure of the database, never to a table
with a part of the rows.

However it ends, the end is measured once.
-/

namespace ReportServer

namespace Database

open Report (ExportError)
open Table (Cell)
open Trail (Measure QueryOutcome)

/-! ## How a query goes -/

namespace QueryRunner

variable (r : QueryRunner) (sql : String)

/-- `r.Goes sql reply`: the ways a query can go, and what becomes of it. -/
inductive Goes : Reply (Except ExportError Table) → Prop where
  | unpreparedSilent : (r.link.prepare sql).value = .silent → Goes .silent
  | unpreparedFailed {detail : String} : (r.link.prepare sql).value = .failed detail → Goes (.failed detail)
  | unsupported {columns : List WireColumn} {e : ExportError} : (r.link.prepare sql).value = .answered columns →
    supportedColumns columns = .error e → Goes (.answered (.error e))
  | unfetchedSilent {columns : List WireColumn} {xs : List (Table.Column × ColumnType)} :
    (r.link.prepare sql).value = .answered columns → supportedColumns columns = .ok xs →
    (r.link.fetch sql).value = .silent → Goes .silent
  | unfetchedFailed {columns : List WireColumn} {xs : List (Table.Column × ColumnType)} {detail : String} :
    (r.link.prepare sql).value = .answered columns → supportedColumns columns = .ok xs →
    (r.link.fetch sql).value = .failed detail → Goes (.failed detail)
  | fetched {columns : List WireColumn} {xs : List (Table.Column × ColumnType)} {rows : List Row} :
    (r.link.prepare sql).value = .answered columns → supportedColumns columns = .ok xs →
    (r.link.fetch sql).value = .answered rows → Goes (.answered (tableOf r.link.driver xs rows))

/-- A query is prepared and then, if all columns are supported, run. -/
theorem value_run : (r.run sql).value = match (r.link.prepare sql).value with
    | .silent => .silent
    | .failed detail => .failed detail
    | .answered columns => match supportedColumns columns with
      | .error e => .answered (.error e)
      | .ok xs => match (r.link.fetch sql).value with
        | .silent => .silent
        | .failed detail => .failed detail
        | .answered rows => .answered (tableOf r.link.driver xs rows) := by
  rw [run, Trail.Traced.value_bind]
  cases (r.link.prepare sql).value with
  | silent | failed => rfl
  | answered columns =>
      simp only
      cases supportedColumns columns with
      | error e => rfl
      | ok xs =>
          simp only [fetchTable, Trail.Traced.value_bind]
          cases (r.link.fetch sql).value <;> rfl

/-- There are no other ways. -/
theorem goes_run : r.Goes sql (r.run sql).value := by
  rw [value_run]
  cases hprepare : (r.link.prepare sql).value with
  | silent => exact .unpreparedSilent hprepare
  | failed detail => exact .unpreparedFailed hprepare
  | answered columns =>
      simp only
      cases hxs : supportedColumns columns with
      | error e => exact .unsupported hprepare hxs
      | ok xs =>
          simp only
          cases hfetch : (r.link.fetch sql).value with
          | silent => exact .unfetchedSilent hprepare hxs hfetch
          | failed detail => exact .unfetchedFailed hprepare hxs hfetch
          | answered result => exact .fetched hprepare hxs hfetch

theorem calls_run : Trail.calls (r.run sql).trail = Trail.calls (r.link.prepare sql).trail
    ++ match (r.link.prepare sql).value with
      | .answered columns => match supportedColumns columns with
        | .ok _ => Trail.calls (r.link.fetch sql).trail
        | .error _ => []
      | _ => [] := by
  rw [run, Trail.Traced.trail_bind, Trail.calls_append]
  cases (r.link.prepare sql).value with
  | silent | failed => rfl
  | answered columns =>
      simp only
      cases supportedColumns columns with
      | error e => rfl
      | ok xs =>
          simp only [fetchTable, Trail.Traced.trail_bind, Trail.calls_append]
          cases (r.link.fetch sql).value <;> simp

/-- On its way a query measures nothing. -/
theorem measures_run : Trail.measures (r.run sql).trail = [] := by
  have hprepare : ∀ l : Link, Trail.measures (l.prepare sql).trail = [] := fun l => by cases l <;> rfl
  have hfetch : ∀ l : Link, Trail.measures (l.fetch sql).trail = [] := fun l => by cases l <;> rfl
  rw [run, Trail.Traced.trail_bind, Trail.measures_append, hprepare, List.nil_append]
  cases (r.link.prepare sql).value with
  | silent | failed => rfl
  | answered columns =>
      simp only
      cases supportedColumns columns with
      | error e => rfl
      | ok xs =>
          simp only [fetchTable, Trail.Traced.trail_bind, Trail.measures_append, hfetch, List.nil_append]
          cases (r.link.fetch sql).value <;> rfl

/-! ## How it ends -/

theorem value_execute : (r.execute sql).value = (r.verdict (r.run sql).value).2 := by
  simp only [execute, Trail.Traced.value_bind]
  cases (r.verdict (r.run sql).value).2 <;> rfl

theorem calls_execute : Trail.calls (r.execute sql).trail = Trail.calls (r.run sql).trail := by
  simp only [execute, Trail.Traced.trail_bind, Trail.calls_append, Trail.calls_measure, List.nil_append]
  cases (r.verdict (r.run sql).value).2 <;> simp

/-- The end is measured, and the number of rows if there are any to count. -/
theorem measures_execute : Trail.measures (r.execute sql).trail
    = .queryDuration (r.verdict (r.run sql).value).1 :: match (r.execute sql).value with
      | .ok t => [.queryRows t.rows.length]
      | .error _ => [] := by
  rw [value_execute]
  simp only [execute, Trail.Traced.trail_bind, Trail.measures_append, Trail.measures_measure, measures_run,
    List.nil_append, List.singleton_append]
  cases (r.verdict (r.run sql).value).2 <;> rfl

variable {r sql}

theorem verdict_eq_ok_iff {reply : Reply (Except ExportError Table)} {t : Table} :
    (r.verdict reply).2 = .ok t ↔ reply = .answered (.ok t) := by
  cases reply with
  | silent | failed => simp [verdict]
  | answered x => cases x <;> simp [verdict]

theorem outcome_eq_completed_iff {reply : Reply (Except ExportError Table)} :
    (r.verdict reply).1 = .completed ↔ ∃ t : Table, reply = .answered (.ok t) := by
  cases reply with
  | silent | failed => simp [verdict]
  | answered x => cases x <;> simp [verdict]

theorem outcome_eq_timedOut_iff {reply : Reply (Except ExportError Table)} :
    (r.verdict reply).1 = .timedOut ↔ reply = .silent := by
  cases reply with
  | silent | failed => simp [verdict]
  | answered x => cases x <;> simp [verdict]

/-- A query that was prepared and run comes to what is made of its rows. -/
theorem value_execute_of_fetched {columns : List WireColumn} {xs : List (Table.Column × ColumnType)}
    {rows : List Row} (hprepare : (r.link.prepare sql).value = .answered columns)
    (hxs : supportedColumns columns = .ok xs) (hfetch : (r.link.fetch sql).value = .answered rows) :
    (r.execute sql).value = tableOf r.link.driver xs rows := by
  rw [value_execute, value_run, hprepare]
  simp only [hxs, hfetch]
  cases tableOf r.link.driver xs rows <;> rfl

/-- One with a column of a type that is not supported is not run. -/
theorem execute_of_unsupported {columns : List WireColumn} {e : ExportError}
    (hprepare : (r.link.prepare sql).value = .answered columns) (hxs : supportedColumns columns = .error e) :
    (r.execute sql).value = .error e ∧ Trail.calls (r.execute sql).trail = [.prepare sql] := by
  -- the link is up, or else there would be no columns
  have hup : Trail.calls (r.link.prepare sql).trail = [.prepare sql] := by
    cases hl : r.link with
    | down detail =>
        rw [hl] at hprepare
        exact absurd hprepare (by simp [Link.prepare])
    | up s => rfl
  rw [value_execute, value_run, calls_execute, calls_run, hprepare, hup]
  simp only [hxs]
  exact ⟨rfl, rfl⟩

/-- A query comes to a table exactly if it was prepared and run and the table shows what came. -/
theorem value_execute_eq_ok_iff {t : Table} : (r.execute sql).value = .ok t ↔
    ∃ (columns : List WireColumn) (rows : List Row), (r.link.prepare sql).value = .answered columns
      ∧ (r.link.fetch sql).value = .answered rows ∧ Tabulates r.link.driver columns rows t := by
  constructor
  · intro h
    rw [value_execute, verdict_eq_ok_iff] at h
    have hgoes := r.goes_run sql
    rw [h] at hgoes
    -- of all ways only the one to the end comes to a table
    generalize hreply : Reply.answered (Except.ok t) = reply at hgoes
    cases hgoes with
    | fetched hprepare hxs hfetch =>
        injection hreply with hreply
        exact ⟨_, _, hprepare, hfetch, (tableOf_eq_ok_iff hxs).mp hreply.symm⟩
    | _ => exact absurd hreply (by simp)
  · rintro ⟨columns, result, hprepare, hfetch, htable⟩
    obtain ⟨xs, hxs⟩ : ∃ xs : List (Table.Column × ColumnType), supportedColumns columns = .ok xs := by
      refine exists_supportedColumns fun c hc => ?_
      obtain ⟨shown, -, t, ht, -⟩ := exists_mem_of_forall₂ htable.heads.flip hc
      exact ⟨t, ht⟩
    rw [value_execute_of_fetched hprepare hxs hfetch]
    exact (tableOf_eq_ok_iff hxs).mpr htable

/-- Whatever goes wrong is a failure of the database. -/
theorem value_execute_error {e : ExportError} (h : (r.execute sql).value = .error e) :
    ∃ detail : String, e = .database detail := by
  rw [value_execute] at h
  have hgoes := r.goes_run sql
  generalize (r.run sql).value = reply at h hgoes
  cases hgoes with
  | unpreparedSilent | unpreparedFailed | unfetchedSilent | unfetchedFailed =>
      injection h with h
      exact ⟨_, h.symm⟩
  | unsupported _ hxs =>
      injection h with h
      subst h
      exact supportedColumns_error hxs
  | @fetched _ xs rows _ hxs _ =>
      -- a table is no failure, so it was a row that could not be read
      cases htable : tableOf r.link.driver xs rows with
      | ok t =>
          rw [htable] at h
          exact absurd h (by simp [verdict])
      | error e' =>
          rw [htable] at h
          injection h with h
          subst h
          exact tableOf_error hxs htable

/-- `r.GivesUp sql`: the database stays silent, when the query is prepared or when it is run. -/
def GivesUp (r : QueryRunner) (sql : String) : Prop :=
  (r.link.prepare sql).value = .silent ∨
    ∃ columns : List WireColumn, (r.link.prepare sql).value = .answered columns
      ∧ (∀ c ∈ columns, ∃ t : ColumnType, Named c.typeName t) ∧ (r.link.fetch sql).value = .silent

theorem value_run_eq_silent_iff : (r.run sql).value = .silent ↔ r.GivesUp sql := by
  constructor
  · intro h
    have hgoes := r.goes_run sql
    rw [h] at hgoes
    cases hgoes with
    | unpreparedSilent hprepare => exact .inl hprepare
    | unfetchedSilent hprepare hxs hfetch =>
        exact .inr ⟨_, hprepare, fun c hc => exists_type_of_supportedColumns hxs hc, hfetch⟩
  · rintro (hprepare | ⟨columns, hprepare, htypes, hfetch⟩)
    · rw [value_run, hprepare]
    · obtain ⟨xs, hxs⟩ := exists_supportedColumns htypes
      rw [value_run, hprepare]
      simp only [hxs, hfetch]

theorem name_eq_completed_iff {outcome : QueryOutcome} : outcome.name = "completed" ↔ outcome = .completed := by
  cases outcome <;> decide

theorem name_eq_timed_out_iff {outcome : QueryOutcome} : outcome.name = "timed_out" ↔ outcome = .timedOut := by
  cases outcome <;> decide

theorem name_mem (outcome : QueryOutcome) : outcome.name ∈ ["completed", "failed", "timed_out"] := by
  cases outcome <;> decide

/-! ## At the top -/

/-- What can be counted on when a report's query is executed. -/
structure Answered (r : QueryRunner) (sql : String) : Prop where
  /-- A table is what was read of what came, under the columns of the statement and row by row. -/
  table : ∀ t : Table, (r.execute sql).value = .ok t ↔
    ∃ (columns : List WireColumn) (rows : List Row), (r.link.prepare sql).value = .answered columns
      ∧ (r.link.fetch sql).value = .answered rows ∧ Tabulates r.link.driver columns rows t
  /-- In it each cell shows what came there: null where it was null, a cell of the column's kind where it was not. -/
  rendered : ∀ (t : Table) (columns : List WireColumn) (rows : List Row), (r.execute sql).value = .ok t →
    (r.link.prepare sql).value = .answered columns → (r.link.fetch sql).value = .answered rows →
    ∀ (i j : Nat) (row : Row) (cells : List Cell) (c : WireColumn) (column : Table.Column) (cell : Cell),
      rows[i]? = some row → t.rows[i]? = some cells → columns[j]? = some c → t.columns[j]? = some column →
      cells[j]? = some cell → ∃ v : WireValue, row[j]? = some v ∧ Renders c column.kind v cell
  /-- There is one if all columns are supported and all rows can be read, -/
  readable : ∀ (columns : List WireColumn) (rows : List Row), (r.link.prepare sql).value = .answered columns →
    (r.link.fetch sql).value = .answered rows → (∀ c ∈ columns, ∃ t : ColumnType, Named c.typeName t) →
    (∀ row ∈ rows, Readable r.link.driver columns row) → ∃ t : Table, (r.execute sql).value = .ok t
  /-- as they can if what stands in each column is null or what is sent for a value of its type. -/
  conforming : ∀ (columns : List WireColumn) (rows : List Row), (r.link.prepare sql).value = .answered columns →
    (r.link.fetch sql).value = .answered rows → (∀ c ∈ columns, ∃ t : ColumnType, Named c.typeName t) →
    (∀ row ∈ rows, Conforms columns row) → ∃ t : Table, (r.execute sql).value = .ok t
  /-- A statement with a column of an unsupported type is not run, and the first such column is named. -/
  unsupported : ∀ (before after : List WireColumn) (c : WireColumn),
    (r.link.prepare sql).value = .answered (before ++ c :: after) →
    (∀ b ∈ before, ∃ t : ColumnType, Named b.typeName t) → (∀ t : ColumnType, ¬ Named c.typeName t) →
    (r.execute sql).value
        = .error (.database ("column '" ++ c.name ++ "' has unsupported type " ++ c.typeName))
      ∧ Trail.calls (r.execute sql).trail = [.prepare sql]
  /-- A row that cannot be read is a failure of the whole query, -/
  unreadable : ∀ (columns : List WireColumn) (rows : List Row), (r.link.prepare sql).value = .answered columns →
    (r.link.fetch sql).value = .answered rows → ∀ row ∈ rows, ¬ Readable r.link.driver columns row →
    ∃ detail : String, (r.execute sql).value = .error (.database detail)
  /-- and so is one with a column in which nothing stands, or something of another type. -/
  misfitting : ∀ (columns : List WireColumn) (rows : List Row), (r.link.prepare sql).value = .answered columns →
    (r.link.fetch sql).value = .answered rows → ∀ row ∈ rows, Misfit columns row →
    ∃ detail : String, (r.execute sql).value = .error (.database detail)
  /-- Every failure is one of the database. -/
  failures : ∀ e : ExportError, (r.execute sql).value = .error e → ∃ detail : String, e = .database detail
  /-- The end is measured once, and the number of rows once if there is a table. -/
  measured : ∃ outcome ∈ ["completed", "failed", "timed_out"],
    (Trail.measures (r.execute sql).trail).flatMap Measure.points
        = ⟨.histogram, "report_query_duration_seconds", [("outcome", outcome)], none⟩ ::
          (match (r.execute sql).value with
          | .ok t => [⟨.histogram, "report_query_rows", [], some t.rows.length⟩]
          | .error _ => [])
      ∧ (outcome = "completed" ↔ ∃ t : Table, (r.execute sql).value = .ok t)
      ∧ (outcome = "timed_out" ↔ r.GivesUp sql)

/-- Rows come over a link that is up, so the driver that reads them does what it is documented to do. -/
theorem documented_of_fetched {rows : List Row} (hfetch : (r.link.fetch sql).value = .answered rows)
    (hl : r.link.Documented) : r.link.driver.Documented := by
  cases hlink : r.link with
  | down detail =>
      rw [hlink] at hfetch
      exact absurd hfetch (by simp [Link.fetch])
  | up s d =>
      rw [hlink] at hl
      exact hl

section Fetched

variable {columns : List WireColumn} {rows : List Row} (hprepare : (r.link.prepare sql).value = .answered columns)
  (hfetch : (r.link.fetch sql).value = .answered rows)

include hprepare hfetch

/-- A table shows the rows that came and no others. -/
theorem tabulates_of_fetched {t : Table} (h : (r.execute sql).value = .ok t) :
    Tabulates r.link.driver columns rows t := by
  obtain ⟨columns', rows', hprepare', hfetch', htable⟩ := value_execute_eq_ok_iff.mp h
  obtain rfl := Reply.answered.inj (hprepare.symm.trans hprepare')
  obtain rfl := Reply.answered.inj (hfetch.symm.trans hfetch')
  exact htable

theorem exists_value_execute (htypes : ∀ c ∈ columns, ∃ t : ColumnType, Named c.typeName t)
    (hrows : ∀ row ∈ rows, Readable r.link.driver columns row) : ∃ t : Table, (r.execute sql).value = .ok t := by
  obtain ⟨xs, hxs⟩ := exists_supportedColumns htypes
  rw [value_execute_of_fetched hprepare hxs hfetch]
  exact exists_tableOf hxs hrows

theorem value_execute_of_not_readable {row : Row} (hrow : row ∈ rows) (h : ¬ Readable r.link.driver columns row) :
    ∃ detail : String, (r.execute sql).value = .error (.database detail) := by
  cases hvalue : (r.execute sql).value with
  | error e =>
      obtain ⟨detail, rfl⟩ := value_execute_error hvalue
      exact ⟨detail, rfl⟩
  | ok t => exact absurd (readable_of_tabulates (tabulates_of_fetched hprepare hfetch hvalue) hrow) h

end Fetched

/-- **A report's query is answered with a whole table or fails as the database does, and its end is measured once.** -/
theorem answered_execute (r : QueryRunner) (sql : String) (hl : r.link.Documented) : r.Answered sql where
  table _ := value_execute_eq_ok_iff
  rendered t columns rows ht hprepare hfetch i j row cells c column cell hrow hcells hc hcolumn hcell :=
    renders_of_tabulates (tabulates_of_fetched hprepare hfetch ht) (documented_of_fetched hfetch hl)
      hrow hcells hc hcolumn hcell
  readable columns rows hprepare hfetch := exists_value_execute hprepare hfetch
  conforming columns rows hprepare hfetch htypes hrows :=
    exists_value_execute hprepare hfetch htypes fun row hrow =>
      readable_of_conforms (documented_of_fetched hfetch hl) (hrows row hrow)
  unsupported before after c hprepare hbefore hc :=
    execute_of_unsupported hprepare (supportedColumns_eq_error hbefore hc)
  unreadable columns rows hprepare hfetch row hrow := value_execute_of_not_readable hprepare hfetch hrow
  misfitting columns rows hprepare hfetch row hrow hmisfit :=
    value_execute_of_not_readable hprepare hfetch hrow
      (not_readable_of_misfit (documented_of_fetched hfetch hl) hmisfit)
  failures _ := value_execute_error
  measured := by
    refine ⟨(r.verdict (r.run sql).value).1.name, name_mem _, ?_, ?_, ?_⟩
    · rw [measures_execute]
      cases (r.execute sql).value <;> rfl
    · rw [name_eq_completed_iff, outcome_eq_completed_iff]
      simp only [value_execute, verdict_eq_ok_iff]
    · rw [name_eq_timed_out_iff, outcome_eq_timedOut_iff, value_run_eq_silent_iff]

/-- Two rows of an answer, with a null in each. -/
def orders : QueryRunner :=
  let count : WireColumn := ⟨"count", "INT4"⟩
  let region : WireColumn := ⟨"region", "VARCHAR"⟩
  let batch : WireColumn := ⟨"batch", "UUID"⟩
  let closed : WireColumn := ⟨"closed", "TIMESTAMPTZ"⟩
  let rows : List Row :=
    [[⟨count, some [0, 0, 0, 7]⟩, ⟨region, some [110, 111, 114, 100]⟩,
        ⟨batch, some [0, 17, 34, 51, 68, 85, 102, 119, 136, 153, 170, 187, 204, 221, 238, 255]⟩, ⟨closed, none⟩],
      [⟨count, some [255, 255, 255, 254]⟩, ⟨region, none⟩,
        ⟨batch, some [255, 238, 221, 204, 187, 170, 153, 136, 119, 102, 85, 68, 51, 34, 17, 0]⟩,
        ⟨closed, some [0, 0, 0, 20, 33, 106, 231, 0]⟩]]
  let s : Session :=
    ⟨fun _ => .answered [count, region, batch, closed], fun _ => .answered rows, fun _ _ => .error "no statement"⟩
  ⟨.up s plainDriver, 1000⟩

theorem answered_execute_orders : orders.link.Documented
    ∧ (orders.execute "SELECT").value.map (fun t => (t.columns, t.rows)) = .ok
        ([⟨"count", .integer⟩, ⟨"region", .text⟩, ⟨"batch", .text⟩, ⟨"closed", .timestamp⟩],
          [[.integer 7, .text "nord", .text "00112233-4455-6677-8899-aabbccddeeff", .null],
            [.integer (-2), .null, .text "ffeeddcc-bbaa-9988-7766-554433221100",
              .timestamp ⟨⟨2000, 1, 2⟩, 0, 1, 0, 0⟩]])
    ∧ orders.Answered "SELECT" :=
  ⟨documented_plainDriver, by decide +kernel, answered_execute orders "SELECT" documented_plainDriver⟩

end QueryRunner

end Database

end ReportServer
