import ReportServer.Database.Query
import ReportServer.Proofs.Database.Driver
import ReportServer.Proofs.Traversal

/-!
# Tables of what came

The columns of an answer and its rows are made into a table, or one of them is refused. As the kind of a column and
the type its values are read as are both taken from the name of its type, no cell is of another kind than its column.

What the driver reads is a parameter. Where it reads a value in every column of every row there is a table of these
values (`Tabulates`); and by what is documented of it, it reads what was sent in columns of the right types, so that the
cells show that (`Renders`), and nothing that stands in a column of another type.
-/

namespace ReportServer

/-! ## Tables that are made -/

theorem Table.firstRagged_eq_none {width : Nat} {rows : List (List Cell)} (h : ∀ row ∈ rows, row.length = width)
    (i : Nat) : firstRagged width i rows = none := by
  induction rows generalizing i with
  | nil => rfl
  | cons row rest ih =>
      rw [firstRagged, if_pos (h row List.mem_cons_self)]
      exact ih (fun r hr => h r (List.mem_cons_of_mem row hr)) (i + 1)

/-- Rows that fit are a table. -/
theorem Table.make_eq_ok {t : Table} {columns : List Column} {rows : List (List Cell)} :
    make columns rows = .ok t ↔ t.columns = columns ∧ t.rows = rows := by
  constructor
  · intro h
    unfold make at h
    split at h
    · injection h with h
      subst h
      exact ⟨rfl, rfl⟩
    · exact absurd h (by simp)
  · rintro ⟨rfl, rfl⟩
    unfold make
    split
    · rfl
    · rename_i h
      rw [firstRagged_eq_none t.rectangular 0] at h
      exact absurd h (by simp)

namespace Database

open Report (ExportError)
open Table (Cell)

/-! ## Columns -/

/-- `Heads c shown`: in a table the column `c` appears under its name, with the kind of its type. -/
def Heads (c : WireColumn) (shown : Table.Column) : Prop :=
  ∃ t : ColumnType, Named c.typeName t ∧ shown = ⟨c.name, t.kind⟩

theorem supportedColumn_eq_ok_iff {c : WireColumn} {x : Table.Column × ColumnType} :
    supportedColumn c = .ok x ↔ Named c.typeName x.2 ∧ x.1 = ⟨c.name, x.2.kind⟩ := by
  obtain ⟨shown, t⟩ := x
  rw [supportedColumn, ← ColumnType.ofName?_eq_some_iff]
  cases ColumnType.ofName? c.typeName with
  | none => simp
  | some t' =>
      simp only [Except.ok.injEq, Prod.mk.injEq, Option.some.injEq]
      constructor
      · rintro ⟨rfl, rfl⟩
        exact ⟨rfl, rfl⟩
      · rintro ⟨rfl, rfl⟩
        exact ⟨rfl, rfl⟩

theorem supportedColumn_of_not_named {c : WireColumn} (h : ∀ t : ColumnType, ¬ Named c.typeName t) :
    supportedColumn c = .error (.database ("column '" ++ c.name ++ "' has unsupported type " ++ c.typeName)) := by
  rw [supportedColumn, ColumnType.ofName?_eq_none_iff.mpr h]

/-- What is said of supported columns: the type of each, and what they are headed by. -/
theorem supportedColumns_eq_ok_iff {columns : List WireColumn} {xs : List (Table.Column × ColumnType)} :
    supportedColumns columns = .ok xs ↔
      List.Forall₂ (fun c x => Named c.typeName x.2 ∧ x.1 = ⟨c.name, x.2.kind⟩) columns xs := by
  simp only [supportedColumns, mapM_eq_ok_iff, supportedColumn_eq_ok_iff]

/-- `Typed columns types`: these are the types of the columns. -/
abbrev Typed (columns : List WireColumn) (types : List ColumnType) : Prop :=
  List.Forall₂ (fun c t => Named c.typeName t) columns types

theorem typed_of_supportedColumns {columns : List WireColumn} {xs : List (Table.Column × ColumnType)}
    (h : supportedColumns columns = .ok xs) : Typed columns (xs.map Prod.snd) :=
  List.forall₂_map_right_iff.mpr ((supportedColumns_eq_ok_iff.mp h).imp fun _ _ hx => hx.1)

theorem exists_type_of_supportedColumns {columns : List WireColumn} {xs : List (Table.Column × ColumnType)}
    (h : supportedColumns columns = .ok xs) {c : WireColumn} (hc : c ∈ columns) :
    ∃ t : ColumnType, Named c.typeName t := by
  obtain ⟨t, -, ht⟩ := exists_mem_of_forall₂ (typed_of_supportedColumns h).flip hc
  exact ⟨t, ht⟩

/-- The heads of supported columns are what they are headed by, and nothing else is. -/
theorem heads_iff {columns : List WireColumn} {xs : List (Table.Column × ColumnType)}
    (h : supportedColumns columns = .ok xs) {shown : List Table.Column} :
    List.Forall₂ Heads columns shown ↔ shown = xs.map Prod.fst := by
  have hxs := supportedColumns_eq_ok_iff.mp h
  constructor
  · intro hshown
    clear h
    induction hxs generalizing shown with
    | nil =>
        cases hshown
        rfl
    | cons hx _ ih =>
        obtain ⟨ht, hhead⟩ := hx
        cases hshown with
        | cons hs hrest =>
            obtain ⟨t, ht', rfl⟩ := hs
            obtain rfl := ht.unique ht'
            rw [List.map_cons, hhead, ih hrest]
  · rintro rfl
    exact List.forall₂_map_right_iff.mpr (hxs.imp fun c x hx => ⟨x.2, hx⟩)

/-- Columns of supported types are supported all together. -/
theorem exists_supportedColumns {columns : List WireColumn} (h : ∀ c ∈ columns, ∃ t : ColumnType, Named c.typeName t) :
    ∃ xs : List (Table.Column × ColumnType), supportedColumns columns = .ok xs := by
  refine exists_mapM_eq_ok fun c hc => ?_
  obtain ⟨t, ht⟩ := h c hc
  exact ⟨(⟨c.name, t.kind⟩, t), supportedColumn_eq_ok_iff.mpr ⟨ht, rfl⟩⟩

/-- The first column that is not supported is the one that is named. -/
theorem supportedColumns_eq_error {before after : List WireColumn} {c : WireColumn}
    (hbefore : ∀ b ∈ before, ∃ t : ColumnType, Named b.typeName t) (hc : ∀ t : ColumnType, ¬ Named c.typeName t) :
    supportedColumns (before ++ c :: after)
      = .error (.database ("column '" ++ c.name ++ "' has unsupported type " ++ c.typeName)) := by
  refine mapM_eq_error (fun b hb => ?_) (supportedColumn_of_not_named hc)
  obtain ⟨t, ht⟩ := hbefore b hb
  exact ⟨(⟨b.name, t.kind⟩, t), supportedColumn_eq_ok_iff.mpr ⟨ht, rfl⟩⟩

theorem supportedColumns_error {columns : List WireColumn} {e : ExportError}
    (h : supportedColumns columns = .error e) : ∃ detail : String, e = .database detail := by
  obtain ⟨c, -, hc⟩ := exists_of_mapM_eq_error h
  rw [supportedColumn] at hc
  split at hc
  · exact absurd hc (by simp)
  · injection hc with hc
    exact ⟨_, hc.symm⟩

/-! ## Rows -/

section Rows

variable (d : Driver)

/-- `RowShows d columns row cells`: in each column the driver reads a value of its type, and the cell there shows it. -/
structure RowShows (columns : List WireColumn) (row : Row) (cells : List Cell) : Prop where
  /-- There is one cell for each column. -/
  length : columns.length = cells.length
  /-- It shows what is read as the type of the column. -/
  shows : ∀ (i : Nat) (c : WireColumn) (cell : Cell), columns[i]? = some c → cells[i]? = some cell →
    ∃ (t : ColumnType) (value : Option t.Value), Named c.typeName t ∧ d.get t row (.place i) = .ok value
      ∧ t.ShowsValue value cell

/-- `Readable d columns row`: in each column the driver reads a value of its type. -/
def Readable (columns : List WireColumn) (row : Row) : Prop :=
  ∀ (i : Nat) (c : WireColumn), columns[i]? = some c → ∃ (t : ColumnType) (value : Option t.Value),
    Named c.typeName t ∧ d.get t row (.place i) = .ok value

variable {d}

theorem cellAt_eq_ok_iff {row : Row} {i : Nat} {t : ColumnType} {cell : Cell} :
    cellAt d row i t = .ok cell ↔
      ∃ value : Option t.Value, d.get t row (.place i) = .ok value ∧ t.ShowsValue value cell := by
  rw [cellAt]
  cases d.get t row (.place i) with
  | error detail => simp
  | ok value => simp [ColumnType.showsValue_iff, eq_comm]

theorem cellAt_error {row : Row} {i : Nat} {t : ColumnType} {e : ExportError} (h : cellAt d row i t = .error e) :
    ∃ detail : String, e = .database detail := by
  rw [cellAt] at h
  split at h
  · exact absurd h (by simp)
  · injection h with h
    exact ⟨_, h.symm⟩

variable {columns : List WireColumn} {types : List ColumnType} (h : Typed columns types) {row : Row}

include h

/-- The cells of a row are those that show it. -/
theorem cellsOf_eq_ok_iff {cells : List Cell} : cellsOf d types row = .ok cells ↔ RowShows d columns row cells := by
  obtain ⟨hlen, htypes⟩ := forall₂_iff_getElem?.mp h
  rw [cellsOf, mapM_zipIdx_eq_ok_iff, ← hlen]
  constructor
  · rintro ⟨hlen', hcells⟩
    refine ⟨hlen', fun i c cell hc hcell => ?_⟩
    obtain ⟨t, ht⟩ := exists_getElem?_of_length_eq hlen hc
    obtain ⟨value, hvalue, hshows⟩ := cellAt_eq_ok_iff.mp (hcells i t cell ht hcell)
    exact ⟨t, value, htypes i c t hc ht, hvalue, hshows⟩
  · rintro ⟨hlen', hshows⟩
    refine ⟨hlen', fun i t cell ht hcell => ?_⟩
    obtain ⟨c, hc⟩ := exists_getElem?_of_length_eq hlen.symm ht
    obtain ⟨t', value, ht', hvalue, hcell⟩ := hshows i c cell hc hcell
    obtain rfl := (htypes i c t hc ht).unique ht'
    exact cellAt_eq_ok_iff.mpr ⟨value, hvalue, hcell⟩

/-- Of a row that can be read in each column all cells are read together. -/
theorem exists_rowShows (hrow : Readable d columns row) : ∃ cells : List Cell, RowShows d columns row cells := by
  obtain ⟨hlen, htypes⟩ := forall₂_iff_getElem?.mp h
  have hcells : ∃ cells : List Cell, cellsOf d types row = .ok cells := by
    refine exists_mapM_eq_ok ?_
    rintro ⟨t, i⟩ hx
    have ht : types[i]? = some t := List.mk_mem_zipIdx_iff_getElem?.mp hx
    obtain ⟨c, hc⟩ := exists_getElem?_of_length_eq hlen.symm ht
    obtain ⟨t', value, ht', hvalue⟩ := hrow i c hc
    obtain rfl := (htypes i c t hc ht).unique ht'
    exact ⟨_, cellAt_eq_ok_iff.mpr ⟨value, hvalue, ColumnType.showsValue_iff.mpr rfl⟩⟩
  obtain ⟨cells, hcells⟩ := hcells
  exact ⟨cells, (cellsOf_eq_ok_iff h).mp hcells⟩

end Rows

theorem cellsOf_error {d : Driver} {types : List ColumnType} {row : Row} {e : ExportError}
    (h : cellsOf d types row = .error e) : ∃ detail : String, e = .database detail := by
  obtain ⟨⟨t, i⟩, -, hcell⟩ := exists_of_mapM_eq_error h
  exact cellAt_error hcell

/-! ## Rows as they were sent -/

/-- `Conforms columns row`: in each column stands what is sent in a column of its type, for a value or for null. -/
def Conforms (columns : List WireColumn) (row : Row) : Prop :=
  ∀ (i : Nat) (c : WireColumn), columns[i]? = some c → ∃ (t : ColumnType) (value : Option t.Value) (v : WireValue),
    Named c.typeName t ∧ row[i]? = some v ∧ t.Sends value v

/-- `Misfit columns row`: in some column stands nothing, not even null, or something of another type. -/
def Misfit (columns : List WireColumn) (row : Row) : Prop :=
  ∃ (i : Nat) (c : WireColumn), columns[i]? = some c ∧ (row[i]? = none ∨ ∃ (v : WireValue) (t : ColumnType),
    row[i]? = some v ∧ v.bytes ≠ none ∧ Named v.column.typeName t ∧ ¬ Named c.typeName t)

/-- `Renders c kind v cell`: of what came in the column `c`, a null is a null cell, anything else is a cell of the kind,
and what was sent for a value of the column's type is a cell that shows the value. -/
structure Renders (c : WireColumn) (kind : Table.Kind) (v : WireValue) (cell : Cell) : Prop where
  null : cell = .null ↔ v.bytes = none
  kind : v.bytes ≠ none → cell.kind? = some kind
  same : ∀ (t : ColumnType) (a : t.Value), Named c.typeName t → t.Sends (some a) v → t.Shows a cell

theorem values_place {row : Row} {i : Nat} {v : WireValue} (h : row[i]? = some v) :
    (ColumnIndex.place i).values row = [v] := by
  rw [ColumnIndex.values, h]
  rfl

section Documented

variable {d : Driver} (hd : d.Documented) {columns : List WireColumn} {row : Row}

include hd

/-- What is read at a place stands there. -/
theorem exists_value_of_get {t : ColumnType} {i : Nat} {value : Option t.Value}
    (h : d.get t row (.place i) = .ok value) : ∃ v : WireValue, row[i]? = some v := by
  cases hrow : row[i]? with
  | some v => exact ⟨v, rfl⟩
  | none =>
      obtain ⟨detail, hdetail⟩ := hd.absent t row (.place i) (by rw [ColumnIndex.values, hrow]; rfl)
      rw [hdetail] at h
      exact absurd h (by simp)

theorem readable_of_conforms (h : Conforms columns row) : Readable d columns row := by
  intro i c hc
  obtain ⟨t, value, v, ht, hv, hsends⟩ := h i c hc
  exact ⟨t, value, ht, hd.get_of_sends (values_place hv) hsends⟩

theorem not_readable_of_misfit (h : Misfit columns row) : ¬ Readable d columns row := by
  intro hreadable
  obtain ⟨i, c, hc, hmisfit⟩ := h
  obtain ⟨t, value, ht, hget⟩ := hreadable i c hc
  obtain ⟨v, hv⟩ := exists_value_of_get hd hget
  rcases hmisfit with hnone | ⟨v', t', hv', hbytes, ht', hnot⟩
  · rw [hnone] at hv
    exact absurd hv (by simp)
  · have hne : t' ≠ t := fun heq => hnot (heq ▸ ht)
    obtain ⟨detail, hdetail⟩ := hd.mistyped t t' row (.place i) v' (values_place hv') ht' hne hbytes
    rw [hdetail] at hget
    exact absurd hget (by simp)

/-- What a cell shows that was read is what came. -/
theorem renders_of_get {c : WireColumn} {t : ColumnType} {i : Nat} {v : WireValue} {value : Option t.Value}
    {cell : Cell} (ht : Named c.typeName t) (hv : row[i]? = some v) (hget : d.get t row (.place i) = .ok value)
    (hshows : t.ShowsValue value cell) : Renders c t.kind v cell := by
  have hplace := values_place hv
  have hnull : value = none ↔ v.bytes = none := by
    rw [← hd.null t row _ v hplace, hget, Except.ok.injEq]
  obtain rfl := ColumnType.showsValue_iff.mp hshows
  have hkind := ColumnType.kind?_cell t value
  constructor
  case null =>
    rw [← hnull]
    constructor
    · intro hcell
      rw [hcell] at hkind
      exact Option.map_eq_none_iff.mp hkind.symm
    · rintro rfl
      rfl
  case kind =>
    intro hbytes
    obtain ⟨a, rfl⟩ := Option.ne_none_iff_exists'.mp (mt hnull.mp hbytes)
    exact hkind
  case same =>
    intro t' a ht' hsends
    obtain rfl := ht.unique ht'
    obtain rfl := Except.ok.inj (hget.symm.trans (hd.get_of_sends hplace hsends))
    exact hshows

end Documented

/-! ## Tables -/

/-- `Tabulates d columns rows t`: the table shows these rows, all of them and in order, under these columns. -/
structure Tabulates (d : Driver) (columns : List WireColumn) (rows : List Row) (t : Table) : Prop where
  heads : List.Forall₂ Heads columns t.columns
  rows : List.Forall₂ (RowShows d columns) rows t.rows

section Tabulates

variable {d : Driver} {columns : List WireColumn} {rows : List Row} {t : Table} (h : Tabulates d columns rows t)

include h

/-- The cells of a table show what came in their columns. -/
theorem renders_of_tabulates (hd : d.Documented) {i j : Nat} {row : Row} {cells : List Cell} {c : WireColumn}
    {column : Table.Column} {cell : Cell} (hrow : rows[i]? = some row) (hcells : t.rows[i]? = some cells)
    (hc : columns[j]? = some c) (hcolumn : t.columns[j]? = some column) (hcell : cells[j]? = some cell) :
    ∃ v : WireValue, row[j]? = some v ∧ Renders c column.kind v cell := by
  obtain ⟨ct, ht, rfl⟩ := (forall₂_iff_getElem?.mp h.heads).2 j c column hc hcolumn
  have hshown := (forall₂_iff_getElem?.mp h.rows).2 i row cells hrow hcells
  obtain ⟨ct', value, ht', hget, hshows⟩ := hshown.shows j c cell hc hcell
  obtain rfl := ht.unique ht'
  obtain ⟨v, hv⟩ := exists_value_of_get hd hget
  exact ⟨v, hv, renders_of_get hd ht hv hget hshows⟩

/-- Rows of which one cannot be read are in no table. -/
theorem readable_of_tabulates {row : Row} (hrow : row ∈ rows) : Readable d columns row := by
  obtain ⟨cells, -, hshown⟩ := exists_mem_of_forall₂ h.rows.flip hrow
  intro i c hc
  obtain ⟨cell, hcell⟩ := exists_getElem?_of_length_eq hshown.length hc
  obtain ⟨t, value, ht, hget, -⟩ := hshown.shows i c cell hc hcell
  exact ⟨t, value, ht, hget⟩

end Tabulates

theorem tableOf_eq (d : Driver) (xs : List (Table.Column × ColumnType)) (rows : List Row) :
    tableOf d xs rows = (rows.mapM (cellsOf d (xs.map Prod.snd))).bind (Table.make (xs.map Prod.fst)) := rfl

section Supported

variable {d : Driver} {columns : List WireColumn} {xs : List (Table.Column × ColumnType)}
  (hxs : supportedColumns columns = .ok xs) {rows : List Row}

include hxs

theorem rows_iff {shown : List (List Cell)} :
    rows.mapM (cellsOf d (xs.map Prod.snd)) = .ok shown ↔ List.Forall₂ (RowShows d columns) rows shown := by
  simp only [mapM_eq_ok_iff, cellsOf_eq_ok_iff (typed_of_supportedColumns hxs)]

/-- Rows that were read are as long as there are columns, so they are a table. -/
theorem exists_make {shown : List (List Cell)} (h : List.Forall₂ (RowShows d columns) rows shown) :
    ∃ t : Table, Table.make (xs.map Prod.fst) shown = .ok t := by
  have hlen : columns.length = (xs.map Prod.fst).length := by
    rw [List.length_map]
    exact (supportedColumns_eq_ok_iff.mp hxs).length_eq
  have hrect : ∀ cells ∈ shown, cells.length = (xs.map Prod.fst).length := by
    intro cells hcells
    obtain ⟨row, -, hshows⟩ := exists_mem_of_forall₂ h hcells
    exact hshows.length.symm.trans hlen
  exact ⟨⟨xs.map Prod.fst, shown, hrect⟩, Table.make_eq_ok.mpr ⟨rfl, rfl⟩⟩

theorem tableOf_eq_ok_iff {t : Table} : tableOf d xs rows = .ok t ↔ Tabulates d columns rows t := by
  rw [tableOf_eq, bind_eq_ok]
  constructor
  · rintro ⟨shown, hshown, hmake⟩
    obtain ⟨hcolumns, rfl⟩ := Table.make_eq_ok.mp hmake
    exact ⟨(heads_iff hxs).mpr hcolumns, (rows_iff hxs).mp hshown⟩
  · rintro ⟨hheads, hrows⟩
    exact ⟨t.rows, (rows_iff hxs).mpr hrows, Table.make_eq_ok.mpr ⟨(heads_iff hxs).mp hheads, rfl⟩⟩

theorem tableOf_error {e : ExportError} (h : tableOf d xs rows = .error e) :
    ∃ detail : String, e = .database detail := by
  rw [tableOf_eq] at h
  cases hrows : rows.mapM (cellsOf d (xs.map Prod.snd)) with
  | error e' =>
      rw [hrows] at h
      injection h with h
      subst h
      obtain ⟨row, -, hrow⟩ := exists_of_mapM_eq_error hrows
      exact cellsOf_error hrow
  | ok shown =>
      -- what was read are rows of one length, and they are never refused
      obtain ⟨t, ht⟩ := exists_make hxs ((rows_iff hxs).mp hrows)
      rw [hrows, ok_bind, ht] at h
      exact absurd h (by simp)

/-- Where all rows can be read there is a table. -/
theorem exists_tableOf (h : ∀ row ∈ rows, Readable d columns row) : ∃ t : Table, tableOf d xs rows = .ok t := by
  have htyped := typed_of_supportedColumns hxs
  obtain ⟨shown, hrows⟩ : ∃ shown : List (List Cell), rows.mapM (cellsOf d (xs.map Prod.snd)) = .ok shown := by
    refine exists_mapM_eq_ok fun row hrow => ?_
    obtain ⟨cells, hcells⟩ := exists_rowShows htyped (h row hrow)
    exact ⟨cells, (cellsOf_eq_ok_iff htyped).mpr hcells⟩
  obtain ⟨t, ht⟩ := exists_make hxs ((rows_iff hxs).mp hrows)
  exact ⟨t, by rw [tableOf_eq, hrows, ok_bind, ht]⟩

end Supported

end Database

end ReportServer
