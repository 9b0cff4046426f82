import ReportServer.Proofs.Workbook.Placement

/-!
# What a worksheet can hold

A worksheet has a last row, a last column and a longest text, and these are looked at cell by cell, for the
cells that are stored. The header is always stored, so columns are counted as they should be. A row of which
nothing is stored is never looked at: it may stand below the last row of the worksheet, and so may any number
of rows like it.

`Fits` says what a table must be like, without the loops and without the order in which they find a fault. A
table is put on a worksheet exactly if it fits, and otherwise it cannot be encoded.
-/

namespace ReportServer.Workbook

/-- A row of the table that leaves something behind on the worksheet. -/
def ShownRow (row : List Table.Cell) : Prop := ∃ c ∈ row, ∃ content : Content, Shows c content

/-- What a table must be like to be held by a worksheet. -/
structure Fits (t : Table) : Prop where
  /-- There are columns enough on the worksheet. -/
  columns : t.columns.length ≤ maxColumns
  /-- No name of a column is too long, -/
  names : ∀ c ∈ t.columns, c.name.length ≤ maxTextLength
  /-- and no text below it. -/
  texts : ∀ row ∈ t.rows, ∀ c ∈ row, ∀ s : String, Shows c (.string s) → s.length ≤ maxTextLength
  /-- The rows that show something have their place; the header takes the first row. -/
  rows : ∀ (i : Nat) (row : List Table.Cell), t.rows[i]? = some row → ShownRow row → i + 1 < maxRows
  /-- All rows have a number, also those that show nothing. -/
  numbers : t.rows.length < rowNumbers

/-! ## One cell -/

theorem isTooLong_eq_false_iff {content : Content} : content.isTooLong = false ↔
    ∀ s : String, content = .string s → s.length ≤ maxTextLength := by
  cases content with
  | string s => simp [Content.isTooLong]
  | number | boolean | blank => simp [Content.isTooLong]

/-- A cell can be held if it has a place and is not too long. -/
theorem fault_eq_none_iff {s : Stored} : s.fault = none ↔
    s.row < maxRows ∧ s.column < maxColumns ∧ s.content.isTooLong = false := by
  have hnumbers : maxRows ≤ rowNumbers := by decide
  unfold Stored.fault
  split
  · rename_i hrow
    exact iff_of_false (by simp) fun h => by omega
  · split
    · rename_i hplace
      exact iff_of_false (by simp) fun h => by omega
    · rename_i hplace
      have hin : s.row < maxRows ∧ s.column < maxColumns := by omega
      cases s.content.isTooLong <;> simp [hin]

/-! ## All cells -/

theorem limitFault_eq_none_iff_placed {t : Table} : limitFault t = none ↔
    (∀ s : Stored, Placed t s → s.fault = none) ∧ t.rows.length < rowNumbers := by
  have hcells : (layout t).findSome? Stored.fault = none ↔ ∀ s : Stored, Placed t s → s.fault = none := by
    rw [List.findSome?_eq_none_iff]
    simp only [mem_layout_iff]
  rw [← hcells, limitFault]
  cases (layout t).findSome? Stored.fault with
  | some f => simp
  | none => simp

theorem length_of_getElem? {t : Table} {i : Nat} {row : List Table.Cell} (h : t.rows[i]? = some row) :
    row.length = t.columns.length :=
  t.rectangular row (List.mem_of_getElem? h)

/-- What a table that fits puts on the worksheet can be held there. -/
theorem Fits.fault_eq_none {t : Table} (h : Fits t) {s : Stored} (hs : Placed t s) : s.fault = none := by
  rw [fault_eq_none_iff, isTooLong_eq_false_iff]
  have hfirst : 0 < maxRows := by decide
  have hcolumn : ∀ {j : Nat} {α : Type} {xs : List α} {x : α}, xs.length = t.columns.length →
      xs[j]? = some x → j < maxColumns := by
    intro j α xs x hlength hj
    obtain ⟨hlt, -⟩ := List.getElem?_eq_some_iff.mp hj
    exact Nat.lt_of_lt_of_le (hlength ▸ hlt) h.columns
  cases hs with
  | @name j c hj hn =>
      refine ⟨hfirst, hcolumn rfl hj, fun s he => ?_⟩
      obtain rfl := Content.string.inj he
      exact h.names c (List.mem_of_getElem? hj)
  | noName hj hn => exact ⟨hfirst, hcolumn rfl hj, fun s he => absurd he (by simp)⟩
  | @cell i j row c content hi hj hshows =>
      refine ⟨?_, hcolumn (length_of_getElem? hi) hj, fun s he => ?_⟩
      · exact h.rows i row hi ⟨c, List.mem_of_getElem? hj, content, hshows⟩
      · subst he
        exact h.texts row (List.mem_of_getElem? hi) c (List.mem_of_getElem? hj) s hshows

/-- If all that a table puts on the worksheet can be held there, it fits. -/
theorem fits_of_placed {t : Table} (h : ∀ s : Stored, Placed t s → s.fault = none)
    (hnumbers : t.rows.length < rowNumbers) : Fits t := by
  -- a header cell is stored in every column, with a name or without one
  have hheader : ∀ (j : Nat) (c : Table.Column), t.columns[j]? = some c →
      j < maxColumns ∧ c.name.length ≤ maxTextLength := by
    intro j c hj
    by_cases hn : c.name = ""
    · obtain ⟨-, hcolumn, -⟩ := fault_eq_none_iff.mp (h _ (.noName hj hn))
      exact ⟨hcolumn, by rw [hn]; decide⟩
    · obtain ⟨-, hcolumn, hlong⟩ := fault_eq_none_iff.mp (h _ (.name hj hn))
      exact ⟨hcolumn, isTooLong_eq_false_iff.mp hlong _ rfl⟩
  constructor
  case columns =>
    refine Nat.le_of_not_lt fun hlt => ?_
    obtain ⟨c, hc⟩ : ∃ c, t.columns[maxColumns]? = some c := ⟨_, List.getElem?_eq_getElem hlt⟩
    exact absurd (hheader maxColumns c hc).1 (Nat.lt_irrefl _)
  case names =>
    intro c hc
    obtain ⟨j, hj⟩ := List.mem_iff_getElem?.mp hc
    exact (hheader j c hj).2
  case texts =>
    intro row hrow c hc s hshows
    obtain ⟨i, hi⟩ := List.mem_iff_getElem?.mp hrow
    obtain ⟨j, hj⟩ := List.mem_iff_getElem?.mp hc
    obtain ⟨-, -, hlong⟩ := fault_eq_none_iff.mp (h _ (.cell hi hj hshows))
    exact isTooLong_eq_false_iff.mp hlong s rfl
  case rows =>
    rintro i row hi ⟨c, hc, content, hshows⟩
    obtain ⟨j, hj⟩ := List.mem_iff_getElem?.mp hc
    exact (fault_eq_none_iff.mp (h _ (.cell hi hj hshows))).1
  case numbers => exact hnumbers

theorem limitFault_eq_none_iff {t : Table} : limitFault t = none ↔ Fits t := by
  rw [limitFault_eq_none_iff_placed]
  exact ⟨fun h => fits_of_placed h.1 h.2, fun h => ⟨fun _ => h.fault_eq_none, h.numbers⟩⟩

/-! ## At the top -/

/-- **When a table is put on a worksheet**, and what comes of it. -/
theorem ofTable_eq_ok_iff {t : Table} {name : String} {w : Workbook} : ofTable t name = .ok w ↔
    sheetNameFault name = none ∧ Fits t ∧ w = ⟨name, layout t, UInt32.ofNat (t.rows.length + 1)⟩ := by
  rw [← limitFault_eq_none_iff, ofTable]
  cases sheetNameFault name with
  | some f => simp
  | none =>
      cases limitFault t with
      | some f => simp
      | none => simp [eq_comm]

theorem ofTable_eq_ok_or_encoding (t : Table) (name : String) :
    (∃ w : Workbook, ofTable t name = .ok w) ∨ ∃ detail : String, ofTable t name = .error (.encoding detail) := by
  unfold ofTable
  split
  · exact Or.inr ⟨_, rfl⟩
  · split
    · exact Or.inr ⟨_, rfl⟩
    · exact Or.inl ⟨_, rfl⟩

/-- What fits is put on a worksheet of the name, and as long as there are numbers its rows are counted. -/
theorem exists_ofTable {t : Table} {name : String} (hname : sheetNameFault name = none) (hfits : Fits t)
    (hrows : t.rows.length + 1 < rowNumbers) : ∃ w : Workbook, ofTable t name = .ok w
      ∧ w.sheetName = name ∧ w.rowsWritten.toNat = t.rows.length + 1 :=
  ⟨_, ofTable_eq_ok_iff.mpr ⟨hname, hfits, rfl⟩, rfl, UInt32.toNat_ofNat_of_lt' hrows⟩

/--
**A workbook has lost nothing that its table shows**, and a table of which something would be lost is refused.

A table is encoded exactly if it fits, under a name that a worksheet can have; everything else is a failure of
encoding. All that the table shows then has its place on the worksheet. The rows that were written are counted
with those that show nothing, modulo the numbers there are.
-/
theorem encoded_iff_fits (t : Table) (name : String) :
    ((∃ w : Workbook, ofTable t name = .ok w) ↔ sheetNameFault name = none ∧ Fits t)
      ∧ (¬ (sheetNameFault name = none ∧ Fits t) →
          ∃ detail : String, ofTable t name = .error (.encoding detail))
      ∧ ∀ w : Workbook, ofTable t name = .ok w →
          (∀ s : Stored, Placed t s → s ∈ w.cells ∧ s.row < maxRows ∧ s.column < maxColumns)
            ∧ w.rowsWritten.toNat = (t.rows.length + 1) % rowNumbers := by
  have hok : (∃ w : Workbook, ofTable t name = .ok w) ↔ sheetNameFault name = none ∧ Fits t :=
    ⟨fun ⟨w, hw⟩ => ⟨(ofTable_eq_ok_iff.mp hw).1, (ofTable_eq_ok_iff.mp hw).2.1⟩,
      fun ⟨hname, hfits⟩ => ⟨_, ofTable_eq_ok_iff.mpr ⟨hname, hfits, rfl⟩⟩⟩
  refine ⟨hok, ?_, ?_⟩
  · intro hnot
    exact (ofTable_eq_ok_or_encoding t name).resolve_left (mt hok.mp hnot)
  · intro w hw
    obtain ⟨-, hfits, rfl⟩ := ofTable_eq_ok_iff.mp hw
    refine ⟨fun s hs => ?_, UInt32.toNat_ofNat'⟩
    obtain ⟨hrow, hcolumn, -⟩ := fault_eq_none_iff.mp (hfits.fault_eq_none hs)
    exact ⟨mem_layout_iff.mpr hs, hrow, hcolumn⟩

/-- A table of one column and of rows that show nothing. -/
def blankRows (n : Nat) : Table where
  columns := [⟨"a", .text⟩]
  rows := List.replicate n [.null]
  rectangular := by
    intro row h
    rw [List.eq_of_mem_replicate h]
    rfl

theorem not_shownRow_blankRows {n : Nat} : ∀ row ∈ (blankRows n).rows, ¬ ShownRow row := by
  rintro row hrow ⟨c, hc, content, hshows⟩
  rw [List.eq_of_mem_replicate hrow, List.mem_singleton] at hc
  rw [hc] at hshows
  cases hshows

theorem fits_blankRows {n : Nat} (h : n < rowNumbers) : Fits (blankRows n) where
  columns := show 1 ≤ maxColumns by decide
  names := by
    intro c hc
    rw [List.mem_singleton.mp hc]
    decide
  texts := fun row hrow c hc _ hshows => absurd ⟨c, hc, _, hshows⟩ (not_shownRow_blankRows row hrow)
  rows := fun _ row hi hshown => absurd hshown (not_shownRow_blankRows row (List.mem_of_getElem? hi))
  numbers := by rwa [blankRows, List.length_replicate]

/-- With its header, a table of one row too many is encoded, if its rows show nothing. -/
theorem encoded_beyond_last_row : ∃ w : Workbook, ofTable (blankRows 1048576) "S" = .ok w
    ∧ (blankRows 1048576).rows.length = maxRows ∧ w.rowsWritten.toNat = maxRows + 1 := by
  have hname : sheetNameFault "S" = none := by decide
  have hfits : Fits (blankRows 1048576) := fits_blankRows (by decide)
  have hlength : (blankRows 1048576).rows.length = maxRows := List.length_replicate
  obtain ⟨w, hw, -, hrows⟩ := exists_ofTable hname hfits (by rw [hlength]; decide)
  exact ⟨w, hw, hlength, by rw [hrows, hlength]⟩

end ReportServer.Workbook
