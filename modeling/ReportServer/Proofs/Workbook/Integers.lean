import ReportServer.Csv.Writer
import ReportServer.Proofs.Decimal.Shortest
import ReportServer.Proofs.Workbook.Placement

/-!
# Integers in the workbook and in the CSV file

A CSV file has the digits of an integer. A workbook knows only floating point numbers, and holds the one nearest to the
integer. Its value is the integer as long as that has no more than fifty-three significant bits. What is written for it
is its shortest decimal, which is the integer up to fifty-three bits, and beyond that exactly if the integer is the one
that is preferred among all that become the same number.
-/

namespace ReportServer

open Decimal (Binary64)

theorem natAbs_toInt_lt (v : Int64) : v.toInt.natAbs < 2 ^ 64 := by
  have hlow := v.le_toInt
  have hhigh := v.toInt_lt
  omega

namespace Csv

/-- The digits of an integer need no quotes. -/
theorem field_toString (i : Int) : field (toString i).toList = (toString i).toList := by
  have hspecial : ∀ c, isSpecial c = true → c ≠ '-' ∧ c.isDigit = false := by
    intro c hc
    simp only [isSpecial, Bool.or_eq_true, beq_iff_eq] at hc
    rcases hc with ((rfl | rfl) | rfl) | rfl <;> decide
  have hdigits : ∀ c ∈ Nat.toDigits 10 i.natAbs, isSpecial c = false := by
    intro c hc
    by_contra hs
    have hdigit := Nat.isDigit_of_mem_toDigits (by decide) (by decide) hc
    rw [(hspecial c (by simpa using hs)).2] at hdigit
    cases hdigit
  have hplain : (toString i).toList.any isSpecial = false := by
    rw [Binary64.toString_int, String.toList_ofList, List.any_eq_false]
    intro c hc
    rw [Bool.not_eq_true]
    split at hc
    · rcases List.mem_cons.mp hc with rfl | hc
      · decide
      · exact hdigits c hc
    · exact hdigits c hc
  unfold field
  rw [hplain]
  rfl

/-- The rows of a table stand below its column names. -/
theorem getElem?_records {t : Table} {i : Nat} {row : List Table.Cell} (hrow : t.rows[i]? = some row) :
    (records t)[i + 1]? = some (row.map (·.toText.toList)) := by
  simp [records, hrow]

end Csv

namespace Workbook

variable {t : Table} {name : String} {w : Workbook} {i j : Nat} {row : List Table.Cell} {v : Int64}

/-- At the place of an integer there is the number nearest to it, and nothing else. -/
theorem integer_stored (h : ofTable t name = .ok w) (hrow : t.rows[i]? = some row)
    (hcell : row[j]? = some (.integer v)) {s : Stored} :
    s ∈ w.cells ∧ s.place = (i + 1, j) ↔ s = ⟨i + 1, j, .number (.ofInt v.toInt), false⟩ := by
  obtain ⟨-, hnodup, hcells⟩ := holds_exactly h
  have hmem : ⟨i + 1, j, .number (.ofInt v.toInt), false⟩ ∈ w.cells := (hcells _).mpr (.cell hrow hcell (.integer v))
  constructor
  · rintro ⟨hs, hplace⟩
    exact List.inj_on_of_nodup_map hnodup hs hmem hplace
  · rintro rfl
    exact ⟨hmem, rfl⟩

/--
An integer cell of a table has its digits in the CSV file. In the workbook it is the nearest number. That number has
the same value exactly if the integer has at most fifty-three significant bits; it is written with the same digits
if the integer is not above two to the power of fifty-three, and for all integers exactly if no other one that becomes
the same number is preferred.
-/
theorem integers_compared (h : ofTable t name = .ok w) (hrow : t.rows[i]? = some row)
    (hcell : row[j]? = some (.integer v)) :
    (∀ s, s ∈ w.cells ∧ s.place = (i + 1, j) ↔ s = ⟨i + 1, j, .number (.ofInt v.toInt), false⟩) ∧
      (∃ fields, (Csv.records t)[i + 1]? = some fields ∧ fields[j]? = some (toString v.toInt).toList ∧
        Csv.field (toString v.toInt).toList = (toString v.toInt).toList) ∧
      ((Binary64.ofInt v.toInt).value = v.toInt ↔ Binary64.FewBits v.toInt.natAbs) ∧
      (v.toInt.natAbs ≤ 2 ^ 53 → (Binary64.ofInt v.toInt).text = toString v.toInt) ∧
      ((Binary64.ofInt v.toInt).text = toString v.toInt ↔ ∀ k : Int, Binary64.ofInt k = Binary64.ofInt v.toInt →
        k ≠ v.toInt → Binary64.Preferred (Binary64.ofInt v.toInt).value v.toInt k) := by
  have hsize := natAbs_toInt_lt v
  have hlog := Binary64.log2_le_of_lt_two_pow hsize
  refine ⟨fun s => integer_stored h hrow hcell, ⟨_, Csv.getElem?_records hrow, ?_, Csv.field_toString _⟩,
    Binary64.value_ofInt_eq_iff (by omega), Binary64.text_ofInt_of_le, Binary64.text_ofInt_eq_iff hsize⟩
  rw [List.getElem?_map, hcell]
  rfl

/-- A table with one integer. -/
def tableOf (v : Int64) : Table where
  columns := [⟨"n", .integer⟩]
  rows := [[.integer v]]
  rectangular := by simp

theorem ofTable_tableOf (v : Int64) : ofTable (tableOf v) "S" = .ok ⟨"S", layout (tableOf v), 2⟩ := by
  have hname : sheetNameFault "S" = none := by decide
  simp only [ofTable, hname]
  rfl

/-- Two to the power of fifty-three is kept, and its sign as well. -/
theorem integers_compared_power : ∃ w, ofTable (tableOf (-9007199254740992)) "S" = .ok w ∧
    ⟨1, 0, .number (.ofInt (-9007199254740992)), false⟩ ∈ w.cells ∧
    (Binary64.ofInt (-9007199254740992)).value = (-9007199254740992 : Int) ∧
    (Binary64.ofInt (-9007199254740992)).text = toString (-9007199254740992 : Int) := by
  have hv : (-9007199254740992 : Int64).toInt = -9007199254740992 := by decide
  obtain ⟨hstored, -, hvalue, htext, -⟩ :=
    integers_compared (i := 0) (j := 0) (ofTable_tableOf (-9007199254740992)) rfl rfl
  rw [hv] at hstored hvalue htext
  exact ⟨_, ofTable_tableOf _, ((hstored _).mpr rfl).1, hvalue.mpr ⟨1, 53, by decide, by decide⟩, htext (by decide)⟩

/-- The next integer has one bit more, and the workbook shows another one. -/
theorem not_same_integer :
    ¬∀ (t : Table) (name : String) (w : Workbook), ofTable t name = .ok w →
      ∀ (i j : Nat) (row : List Table.Cell) (v : Int64), t.rows[i]? = some row → row[j]? = some (.integer v) →
        ∀ x : Binary64, ⟨i + 1, j, .number x, false⟩ ∈ w.cells → x.text = (Table.Cell.integer v).toText := by
  intro h
  have hmem : ⟨0 + 1, 0, .number (.ofInt (9007199254740993 : Int64).toInt), false⟩ ∈
      layout (tableOf 9007199254740993) := mem_layout_iff.mpr (.cell rfl rfl (.integer _))
  have hsame := h (tableOf 9007199254740993) "S" _ (ofTable_tableOf _) 0 0 _ 9007199254740993 rfl rfl _ hmem
  exact absurd hsame (by decide +kernel)

end Workbook

end ReportServer
