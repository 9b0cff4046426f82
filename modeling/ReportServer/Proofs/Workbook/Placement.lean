import ReportServer.Workbook.Basic

/-!
# The workbook holds exactly the table

The loops that lay a table out carry the place they have reached: a header its column, a row its column,
the rows their row. What they leave behind is told here by place instead: which cell of the table is
behind a stored one, and that no stored cell stands where another one does.

`Shows` and `Placed` are the rules, one constructor for each; the loops do not occur in them. The rows
of the table begin below the header, so its row `i` is row `i + 1` of the worksheet.
-/

namespace ReportServer

theorem Decimal.Binary64.text_ne_empty {x : Decimal.Binary64} (h : x.isFinite = false) : x.text ≠ "" := by
  unfold Decimal.Binary64.text
  split
  · decide
  · cases x.isNegative <;> simp [h]

theorem Date.chars_ne_nil (d : Date) : d.chars ≠ [] := by simp [Date.chars]

theorem Moment.chars_ne_nil (m : Moment) : m.chars ≠ [] := by simp [Moment.chars]

namespace Workbook

/-! ## The rules -/

/--
`Shows c content`: a cell of the table, outside the header, is stored as `content`. Nothing is shown for a
null and for an empty text.
-/
inductive Shows : Table.Cell → Content → Prop where
  | integer (i : Int64) : Shows (.integer i) (.number (.ofInt i.toInt))
  | float {x : Decimal.Binary64} : x.isFinite = true → Shows (.float x) (.number x)
  | boolean (b : Bool) : Shows (.boolean b) (.boolean b)
  | text {s : String} : s ≠ "" → Shows (.text s) (.string s)
  /-- The infinities, and what is not a number. -/
  | notFinite {x : Decimal.Binary64} :
      x.isFinite = false → Shows (.float x) (.string (Table.Cell.float x).toText)
  | timestamp (m : Moment) : Shows (.timestamp m) (.string (Table.Cell.timestamp m).toText)
  | date (d : Date) : Shows (.date d) (.string (Table.Cell.date d).toText)

/-- `Placed t s`: the table puts the cell `s` on its worksheet. -/
inductive Placed (t : Table) : Stored → Prop where
  | name {j : Nat} {c : Table.Column} :
      t.columns[j]? = some c → c.name ≠ "" → Placed t ⟨0, j, .string c.name, true⟩
  | noName {j : Nat} {c : Table.Column} :
      t.columns[j]? = some c → c.name = "" → Placed t ⟨0, j, .blank, true⟩
  | cell {i j : Nat} {row : List Table.Cell} {c : Table.Cell} {content : Content} :
      t.rows[i]? = some row → row[j]? = some c → Shows c content → Placed t ⟨i + 1, j, content, false⟩

/-- The place of a stored cell: its row and its column. -/
def Stored.place (s : Stored) : Nat × Nat := (s.row, s.column)

/-- Row by row, and within a row from left to right. -/
def Stored.Before (a b : Stored) : Prop := a.row < b.row ∨ a.row = b.row ∧ a.column < b.column

/-! ## One cell -/

theorem textContent_eq_some_iff {s : String} {content : Content} :
    textContent s = some content ↔ s ≠ "" ∧ content = .string s := by
  unfold textContent
  split
  · rename_i h
    simp [String.isEmpty_iff.mp h]
  · rename_i h
    simp [mt String.isEmpty_iff.mpr h, eq_comm]

theorem textContent_eq_some {s : String} (h : s ≠ "") : textContent s = some (.string s) :=
  textContent_eq_some_iff.mpr ⟨h, rfl⟩

/-- **What is stored for a cell** goes by the rules. -/
theorem cellContent_eq_some_iff {c : Table.Cell} {content : Content} :
    cellContent c = some content ↔ Shows c content := by
  constructor
  · intro h
    cases c with
    | null => exact absurd h (by simp [cellContent])
    | integer i =>
        obtain rfl := Option.some.inj h
        exact .integer i
    | float x =>
        rw [cellContent] at h
        split at h
        · rename_i hx
          obtain rfl := Option.some.inj h
          exact .float hx
        · rename_i hx
          obtain ⟨-, rfl⟩ := textContent_eq_some_iff.mp h
          exact .notFinite (by simpa using hx)
    | boolean b =>
        obtain rfl := Option.some.inj h
        exact .boolean b
    | text s =>
        obtain ⟨hs, rfl⟩ := textContent_eq_some_iff.mp h
        exact .text hs
    | timestamp m =>
        obtain ⟨-, rfl⟩ := textContent_eq_some_iff.mp h
        exact .timestamp m
    | date d =>
        obtain ⟨-, rfl⟩ := textContent_eq_some_iff.mp h
        exact .date d
  · intro h
    cases h with
    | integer i => rfl
    | float hx => rw [cellContent, if_pos hx]
    | boolean b => rfl
    | text hs => exact textContent_eq_some hs
    | notFinite hx =>
        rw [cellContent, if_neg (by simp [hx])]
        exact textContent_eq_some (Decimal.Binary64.text_ne_empty hx)
    | timestamp m => exact textContent_eq_some (by simpa [Table.Cell.toText] using m.chars_ne_nil)
    | date d => exact textContent_eq_some (by simpa [Table.Cell.toText] using d.chars_ne_nil)

/-! ## What the loops leave behind -/

/-- Some element of a list has a property of it and its index: the first one, or one behind it. -/
theorem exists_getElem?_cons {α : Type} {x : α} {xs : List α} {P : Nat → α → Prop} :
    (∃ (k : Nat) (a : α), (x :: xs)[k]? = some a ∧ P k a) ↔
      P 0 x ∨ ∃ (k : Nat) (a : α), xs[k]? = some a ∧ P (k + 1) a := by
  constructor
  · rintro ⟨k, a, hk, h⟩
    cases k with
    | zero =>
        obtain rfl := Option.some.inj hk
        exact Or.inl h
    | succ k => exact Or.inr ⟨k, a, hk, h⟩
  · rintro (h | ⟨k, a, hk, h⟩)
    · exact ⟨0, x, rfl, h⟩
    · exact ⟨k + 1, a, hk, h⟩

theorem mem_headerFrom_iff {j : Nat} {cs : List Table.Column} {s : Stored} :
    s ∈ headerFrom j cs ↔
      ∃ (k : Nat) (c : Table.Column), cs[k]? = some c ∧ s = ⟨0, j + k, headerContent c, true⟩ := by
  induction cs generalizing j with
  | nil => simp [headerFrom]
  | cons c rest ih =>
      have hplace : ∀ k : Nat, j + 1 + k = j + (k + 1) := fun k => by omega
      rw [headerFrom, List.mem_cons, ih, exists_getElem?_cons]
      simp only [hplace, Nat.add_zero]

theorem mem_rowFrom_iff {i j : Nat} {cs : List Table.Cell} {s : Stored} :
    s ∈ rowFrom i j cs ↔ ∃ (k : Nat) (c : Table.Cell), cs[k]? = some c
      ∧ ∃ content : Content, Shows c content ∧ s = ⟨i, j + k, content, false⟩ := by
  induction cs generalizing j with
  | nil => simp [rowFrom]
  | cons c rest ih =>
      -- whether or not the first cell is stored, the others stand one column further
      have hmem : s ∈ rowFrom i j (c :: rest) ↔
          (∃ content : Content, Shows c content ∧ s = ⟨i, j, content, false⟩)
            ∨ s ∈ rowFrom i (j + 1) rest := by
        simp only [← cellContent_eq_some_iff]
        rw [rowFrom]
        cases cellContent c <;> simp
      have hplace : ∀ k : Nat, j + 1 + k = j + (k + 1) := fun k => by omega
      rw [hmem, ih, exists_getElem?_cons]
      simp only [hplace, Nat.add_zero]

theorem mem_rowsFrom_iff {i : Nat} {rows : List (List Table.Cell)} {s : Stored} :
    s ∈ rowsFrom i rows ↔
      ∃ (k : Nat) (row : List Table.Cell), rows[k]? = some row ∧ s ∈ rowFrom (i + k) 0 row := by
  induction rows generalizing i with
  | nil => simp [rowsFrom]
  | cons row rest ih =>
      have hplace : ∀ k : Nat, i + 1 + k = i + (k + 1) := fun k => by omega
      rw [rowsFrom, List.mem_append, ih, exists_getElem?_cons]
      simp only [hplace, Nat.add_zero]

/-- **The layout of a table** is what the rules put on the worksheet. -/
theorem mem_layout_iff {t : Table} {s : Stored} : s ∈ layout t ↔ Placed t s := by
  rw [layout, List.mem_append, mem_headerFrom_iff, mem_rowsFrom_iff]
  constructor
  · rintro (⟨j, c, hj, rfl⟩ | ⟨i, row, hi, h⟩)
    · rw [Nat.zero_add, headerContent]
      split
      · rename_i hn
        exact .noName hj (String.isEmpty_iff.mp hn)
      · rename_i hn
        exact .name hj (mt String.isEmpty_iff.mpr hn)
    · obtain ⟨j, c, hj, content, hs, rfl⟩ := mem_rowFrom_iff.mp h
      rw [Nat.zero_add, Nat.add_comm 1 i]
      exact .cell hi hj hs
  · intro h
    cases h with
    | @name j c hj hn => exact Or.inl ⟨j, c, hj, by simp [headerContent, hn]⟩
    | @noName j c hj hn => exact Or.inl ⟨j, c, hj, by simp [headerContent, hn]⟩
    | @cell i j row c content hi hj hs =>
        refine Or.inr ⟨i, row, hi, mem_rowFrom_iff.mpr ⟨j, c, hj, content, hs, ?_⟩⟩
        rw [Nat.zero_add, Nat.add_comm 1 i]

/-! ## No two cells in one place -/

theorem pairwise_headerFrom (j : Nat) (cs : List Table.Column) :
    (headerFrom j cs).Pairwise Stored.Before := by
  induction cs generalizing j with
  | nil => exact .nil
  | cons c rest ih =>
      refine .cons ?_ (ih (j + 1))
      intro s hs
      obtain ⟨k, c', -, rfl⟩ := mem_headerFrom_iff.mp hs
      exact Or.inr ⟨rfl, by show j < j + 1 + k; omega⟩

theorem pairwise_rowFrom (i j : Nat) (cs : List Table.Cell) : (rowFrom i j cs).Pairwise Stored.Before := by
  induction cs generalizing j with
  | nil => exact .nil
  | cons c rest ih =>
      rw [rowFrom]
      split
      · refine .cons ?_ (ih (j + 1))
        intro s hs
        obtain ⟨k, c', -, content', -, rfl⟩ := mem_rowFrom_iff.mp hs
        exact Or.inr ⟨rfl, by show j < j + 1 + k; omega⟩
      · exact ih (j + 1)

theorem pairwise_rowsFrom (i : Nat) (rows : List (List Table.Cell)) :
    (rowsFrom i rows).Pairwise Stored.Before := by
  induction rows generalizing i with
  | nil => exact .nil
  | cons row rest ih =>
      refine List.pairwise_append.mpr ⟨pairwise_rowFrom i 0 row, ih (i + 1), ?_⟩
      intro a ha b hb
      obtain ⟨-, -, -, -, -, rfl⟩ := mem_rowFrom_iff.mp ha
      obtain ⟨k, row', -, hb⟩ := mem_rowsFrom_iff.mp hb
      obtain ⟨-, -, -, -, -, rfl⟩ := mem_rowFrom_iff.mp hb
      exact Or.inl (by show i < i + 1 + k; omega)

theorem pairwise_layout (t : Table) : (layout t).Pairwise Stored.Before := by
  refine List.pairwise_append.mpr ⟨pairwise_headerFrom 0 t.columns, pairwise_rowsFrom 1 t.rows, ?_⟩
  intro a ha b hb
  obtain ⟨-, -, -, rfl⟩ := mem_headerFrom_iff.mp ha
  obtain ⟨k, row, -, hb⟩ := mem_rowsFrom_iff.mp hb
  obtain ⟨-, -, -, -, -, rfl⟩ := mem_rowFrom_iff.mp hb
  exact Or.inl (by show 0 < 1 + k; omega)

theorem Stored.Before.place_ne {a b : Stored} (h : a.Before b) : a.place ≠ b.place := by
  intro he
  obtain ⟨hrow, hcolumn⟩ := Prod.mk.inj he
  rcases h with h | ⟨-, h⟩ <;> omega

theorem nodup_place_layout (t : Table) : ((layout t).map Stored.place).Nodup :=
  List.pairwise_map.mpr ((pairwise_layout t).imp Stored.Before.place_ne)

/-! ## At the top -/

theorem ofTable_eq_ok {t : Table} {name : String} {w : Workbook} (h : ofTable t name = .ok w) :
    w = ⟨name, layout t, UInt32.ofNat (t.rows.length + 1)⟩ := by
  unfold ofTable at h
  split at h
  · exact absurd h (by simp)
  · split at h
    · exact absurd h (by simp)
    · exact (Except.ok.inj h).symm

/--
**A workbook holds exactly its table.** Its one worksheet has the name that was asked for; the cells it
stores are those that the rules put there and no others, and no two of them share a place.
-/
theorem holds_exactly {t : Table} {name : String} {w : Workbook} (h : ofTable t name = .ok w) :
    w.sheetName = name ∧ (w.cells.map Stored.place).Nodup ∧ ∀ s : Stored, s ∈ w.cells ↔ Placed t s := by
  rw [ofTable_eq_ok h]
  exact ⟨rfl, nodup_place_layout t, fun _ => mem_layout_iff⟩

/-- A column without a name beside one with a name, above an empty text, a null and what is not a number. -/
def sampleTable : Table where
  columns := [⟨"a", .float⟩, ⟨"", .text⟩]
  rows := [[.null, .text ""], [.float ⟨0x7FF8000000000000⟩, .text "x"]]
  rectangular := by decide

/-- The first row of the table leaves no trace, and the second one keeps its place below it. -/
theorem holds_exactly_gaps : ∃ w : Workbook, ofTable sampleTable "S" = .ok w
    ∧ ⟨2, 0, .string "NaN", false⟩ ∈ w.cells ∧ ∀ s ∈ w.cells, s.row ≠ 1 := by
  have hname : sheetNameFault "S" = none := by decide
  have hlimits : limitFault sampleTable = none := by decide +kernel
  have hw : ofTable sampleTable "S" = .ok ⟨"S", layout sampleTable, 3⟩ := by
    simp only [ofTable, hname, hlimits]
    rfl
  refine ⟨_, hw, ?_, ?_⟩
  · exact ((holds_exactly hw).2.2 _).mpr (.cell rfl rfl (.notFinite (by decide)))
  · intro s hs
    cases ((holds_exactly hw).2.2 s).mp hs with
    | name | noName => exact Nat.zero_ne_one
    | @cell i j row c content hi hj hshows =>
        rintro h
        obtain rfl : i = 0 := Nat.succ.inj h
        obtain rfl := Option.some.inj hi
        match j with
        | 0 => cases Option.some.inj hj; cases hshows
        | 1 =>
            obtain rfl := Option.some.inj hj
            cases hshows with
            | text hne => exact hne rfl

end Workbook

end ReportServer
