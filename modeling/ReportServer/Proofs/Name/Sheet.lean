import ReportServer.Report.Definition
import ReportServer.Workbook.Basic

/-!
# Every report has a worksheet name

A worksheet refuses some names, and a report may be called anything. What `IsSheetName` asks of a name is what
a worksheet asks, without the order of the checks. Four things have to hold at once: replacing characters gives
the one, cutting gives the other, and cleaning the ends comes last because the cut may uncover a new end.
-/

namespace ReportServer

namespace Workbook

/-- A name that a worksheet can have. -/
structure IsSheetName (s : List Char) : Prop where
  /-- It is not blank. -/
  notBlank : s ≠ []
  /-- It is not too long. -/
  length : s.length ≤ 31
  /-- It has no character that means something in references to cells. -/
  allowed : ∀ c ∈ s, c ∉ ['[', ']', ':', '*', '?', '/', '\\']
  /-- No apostrophe stands at its front, -/
  front : s.head? ≠ some '\''
  /-- and none at its end. -/
  rear : s.getLast? ≠ some '\''

theorem sheetNameFault_eq_none_iff {name : String} : sheetNameFault name = none ↔ IsSheetName name.toList := by
  have hforbidden : (name.toList.any fun c =>
        c == '[' || c == ']' || c == ':' || c == '*' || c == '?' || c == '/' || c == '\\') = false
      ↔ ∀ c ∈ name.toList, c ∉ ['[', ']', ':', '*', '?', '/', '\\'] := by
    simp [List.any_eq_false, and_assoc]
  unfold sheetNameFault
  dsimp only
  constructor
  · intro h
    split at h
    · exact absurd h (by simp)
    · rename_i hblank
      split at h
      · exact absurd h (by simp)
      · rename_i hlength
        split at h
        · exact absurd h (by simp)
        · rename_i hallowed
          split at h
          · exact absurd h (by simp)
          · rename_i hedges
            obtain ⟨hfront, hrear⟩ := not_or.mp hedges
            exact ⟨mt List.isEmpty_iff.mpr hblank, by omega, hforbidden.mp (by simpa using hallowed), hfront, hrear⟩
  · intro h
    have hlength := h.length
    rw [if_neg (mt List.isEmpty_iff.mp h.notBlank), if_neg (by omega), hforbidden.mpr h.allowed,
      if_neg (by simp), if_neg (not_or.mpr ⟨h.front, h.rear⟩)]

/-- Letters and digits are nothing that a worksheet refuses. -/
theorem isSheetName_of_isAlphanum {s : List Char} (hne : s ≠ []) (hlength : s.length ≤ 31)
    (h : ∀ c ∈ s, c.isAlphanum = true) : IsSheetName s := by
  have hno : ∀ c ∈ ['[', ']', ':', '*', '?', '/', '\\', '\''], c ∉ s := fun c hc hs => by
    have hrefused : ∀ x ∈ ['[', ']', ':', '*', '?', '/', '\\', '\''], x.isAlphanum = false := by simp
    exact absurd (h c hs) (by simp [hrefused c hc])
  refine ⟨hne, hlength, fun c hc hin => ?_, fun he => ?_, fun he => ?_⟩
  · exact hno c (List.mem_append_left ['\''] hin) hc
  · exact hno '\'' (by decide) (List.mem_of_mem_head? he)
  · exact hno '\'' (by decide) (List.mem_of_getLast? he)

end Workbook

namespace Name

theorem sheetChar_allowed (c : Char) : sheetChar c ∉ ['[', ']', ':', '*', '?', '/', '\\'] := by
  unfold sheetChar
  split
  · decide
  · rename_i h
    simpa [isSheetForbidden, and_assoc] using h

/-- **What is left of a name is a worksheet name.** -/
theorem isSheetName_sheetChars {s : List Char} (h : sheetChars s ≠ []) : Workbook.IsSheetName (sheetChars s) := by
  -- an apostrophe belongs to what the last step strips off both ends
  have hedge : isSheetEdge '\'' = true := by decide
  have hcut : sheetChars s <:+: (Text.strip isSheetEdge (s.map sheetChar)).take maxSheetNameLength :=
    Text.strip_infix _ _
  refine ⟨h, ?_, fun c hc => ?_, fun hfront => ?_, fun hrear => ?_⟩
  · exact Nat.le_trans hcut.length_le (List.length_take_le _ _)
  · have hmem : c ∈ s.map sheetChar :=
      (Text.strip_infix isSheetEdge _).subset (List.mem_of_mem_take (hcut.subset hc))
    obtain ⟨x, -, rfl⟩ := List.mem_map.mp hmem
    exact sheetChar_allowed x
  · exact absurd (Text.of_head?_strip hfront) (by simp [hedge])
  · exact absurd (Text.of_getLast?_strip hrear) (by simp [hedge])

theorem isSheetName_of_cleanSheetName {name sheet : String} (h : cleanSheetName name = some sheet) :
    Workbook.IsSheetName sheet.toList := by
  unfold cleanSheetName at h
  split at h
  · exact absurd h (by simp)
  · rename_i hne
    rw [← Option.some.inj h, String.toList_ofList]
    exact isSheetName_sheetChars hne

end Name

namespace Report.Definition

/-- The name that stands in for the others: however great the number is, it is short. -/
theorem isSheetName_fallbackSheetName (number : Int32) :
    Workbook.IsSheetName (fallbackSheetName number).toList := by
  obtain ⟨n, hn⟩ := Int.eq_ofNat_of_zero_le (show 0 ≤ max number.toInt 1 by omega)
  have hlt : n < 10 ^ 10 := by
    have := Int32.toInt_lt number
    omega
  have hchars : (fallbackSheetName number).toList = "Sheet".toList ++ Nat.toDigits 10 n := by
    rw [fallbackSheetName, hn, String.toList_append]
    exact congrArg _ String.toList_ofList
  have hlength : (Nat.toDigits 10 n).length ≤ 10 :=
    (Nat.length_toDigits_le_iff (by decide) (by decide)).mpr hlt
  rw [hchars]
  refine Workbook.isSheetName_of_isAlphanum (by simp) ?_ fun c hc => ?_
  · rw [List.length_append]
    exact Nat.le_trans (Nat.add_le_add_left hlength _) (by decide)
  · rcases List.mem_append.mp hc with hc | hc
    · have hletters : ∀ x ∈ "Sheet".toList, x.isAlphanum = true := List.all_eq_true.mp (by decide)
      exact hletters c hc
    · simp [Char.isAlphanum, Nat.isDigit_of_mem_toDigits (by decide) (by decide) hc]

/-- **Whatever a report is called**, a worksheet can have the name that is made for it. -/
theorem isSheetName_sheetName (d : Definition) : Workbook.IsSheetName d.sheetName.toList := by
  rw [sheetName]
  cases hclean : Name.cleanSheetName d.name with
  | none => exact isSheetName_fallbackSheetName d.sheetNumber
  | some sheet => exact Name.isSheetName_of_cleanSheetName hclean

end Report.Definition

end ReportServer
