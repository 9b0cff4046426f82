import Mathlib.Data.List.Forall2
import ReportServer.Proofs.Name.Sheet
import ReportServer.Proofs.Text.Stripping

/-!
# What a cleaned sheet name shows

Cleaning a name strips it, cuts it and strips it again, and on the way some characters are replaced. The replacing does
not matter to the stripping, as neither a character that is replaced nor the underscore is stripped. So it may as well
come last, and then the steps can be told apart: what stands between the edges, its first 31 characters, and of these
all but the edges that the cut has uncovered. The front has been stripped before the cut, so the second stripping cannot
empty the name. And whatever has gone through all this has nothing left that a second cleaning would change.
-/

namespace ReportServer.Name

/-- `ShownAs c d`: a character that a worksheet name must not hold is shown as an underscore, and any other as itself. -/
inductive ShownAs : Char → Char → Prop
  | replaced {c : Char} : c ∈ ['[', ']', ':', '*', '?', '/', '\\'] → ShownAs c '_'
  | kept {c : Char} : c ∉ ['[', ']', ':', '*', '?', '/', '\\'] → ShownAs c c

/-- `IsCleaned s`: there is nothing to clean about the name `s`. -/
structure IsCleaned (s : List Char) : Prop where
  notEmpty : s ≠ []
  length : s.length ≤ 31
  allowed : ∀ c ∈ s, c ∉ ['[', ']', ':', '*', '?', '/', '\\']
  /-- It starts neither with a blank nor with an apostrophe, -/
  front : ∀ c : Char, s.head? = some c → ¬(Text.isBlank c = true ∨ c = '\'')
  /-- and it ends with neither. -/
  rear : ∀ c : Char, s.getLast? = some c → ¬(Text.isBlank c = true ∨ c = '\'')

/-- `Abridges s t`: between the blanks and apostrophes at its ends `s` has a body, and `t` shows, position by position,
the beginning of the body. Of the first 31 characters nothing is missing but blanks and apostrophes at the cut. -/
def Abridges (s t : List Char) : Prop :=
  ∃ front body rear shown cut : List Char, s = front ++ body ++ rear
    ∧ (∀ c ∈ front ++ rear, Text.isBlank c = true ∨ c = '\'')
    ∧ (∀ c : Char, body.head? = some c ∨ body.getLast? = some c → ¬(Text.isBlank c = true ∨ c = '\''))
    ∧ body.take 31 = shown ++ cut ∧ (∀ c ∈ cut, Text.isBlank c = true ∨ c = '\'')
    ∧ List.Forall₂ ShownAs shown t

variable {s t : List Char}

/-! ## Replacing and stripping -/

theorem isSheetEdge_iff {c : Char} : isSheetEdge c = true ↔ Text.isBlank c = true ∨ c = '\'' := by
  simp [isSheetEdge]

theorem isSheetEdge_eq_false_iff {c : Char} : isSheetEdge c = false ↔ ¬(Text.isBlank c = true ∨ c = '\'') := by
  rw [← isSheetEdge_iff, Bool.not_eq_true]

theorem isSheetForbidden_iff {c : Char} : isSheetForbidden c = true ↔ c ∈ ['[', ']', ':', '*', '?', '/', '\\'] := by
  simp [isSheetForbidden, or_assoc]

theorem shownAs_iff {c d : Char} : ShownAs c d ↔ sheetChar c = d := by
  by_cases hc : isSheetForbidden c = true
  · rw [sheetChar, if_pos hc]
    constructor
    · rintro (_ | hkept)
      · rfl
      · exact absurd (isSheetForbidden_iff.mp hc) hkept
    · rintro rfl
      exact .replaced (isSheetForbidden_iff.mp hc)
  · rw [sheetChar, if_neg hc]
    constructor
    · rintro (hreplaced | _)
      · exact absurd (isSheetForbidden_iff.mpr hreplaced) hc
      · rfl
    · rintro rfl
      exact .kept (mt isSheetForbidden_iff.mpr hc)

theorem forall₂_shownAs_iff : List.Forall₂ ShownAs s t ↔ s.map sheetChar = t := by
  have hpointwise : List.Forall₂ ShownAs s t ↔ List.Forall₂ (fun c d => sheetChar c = d) s t :=
    ⟨fun h => h.imp fun _ _ => shownAs_iff.mp, fun h => h.imp fun _ _ => shownAs_iff.mpr⟩
  rw [hpointwise, ← List.forall₂_map_left_iff, List.forall₂_eq_eq_eq]

theorem isSheetEdge_sheetChar (c : Char) : isSheetEdge (sheetChar c) = isSheetEdge c := by
  unfold sheetChar
  split
  · next hforbidden =>
    have hnone : ['[', ']', ':', '*', '?', '/', '\\'].all (fun x => !isSheetEdge x) = true := by decide
    have hc : isSheetEdge c = false := by
      simpa using List.all_eq_true.mp hnone c (isSheetForbidden_iff.mp hforbidden)
    rw [hc]
    decide
  · rfl

/-- The characters may be replaced at the very end. -/
theorem sheetChars_eq (s : List Char) : sheetChars s
    = (Text.strip isSheetEdge ((Text.strip isSheetEdge s).take maxSheetNameLength)).map sheetChar := by
  rw [sheetChars, Text.strip_map isSheetEdge_sheetChar, ← List.map_take, Text.strip_map isSheetEdge_sheetChar]

/-! ## What is left -/

theorem IsCleaned.bare (h : IsCleaned t) : Text.Bare isSheetEdge t :=
  ⟨fun c hc => isSheetEdge_eq_false_iff.mpr (h.front c hc), fun c hc => isSheetEdge_eq_false_iff.mpr (h.rear c hc)⟩

theorem isCleaned_sheetChars (h : sheetChars s ≠ []) : IsCleaned (sheetChars s) := by
  have hname := isSheetName_sheetChars h
  have hbare : Text.Bare isSheetEdge (sheetChars s) := Text.bare_strip _ _
  exact ⟨h, hname.length, hname.allowed, fun c hc => isSheetEdge_eq_false_iff.mp (hbare.front c hc),
    fun c hc => isSheetEdge_eq_false_iff.mp (hbare.rear c hc)⟩

theorem head?_take_eq_false {body : List Char} (h : Text.Bare isSheetEdge body) (c : Char)
    (hc : (body.take maxSheetNameLength).head? = some c) : isSheetEdge c = false := by
  rw [List.head?_take, if_neg (by decide)] at hc
  exact h.front c hc

theorem abridges_sheetChars (s : List Char) : Abridges s (sheetChars s) := by
  obtain ⟨hbare, front, rear, hs, hfront, hrear⟩ := Text.stripped_strip isSheetEdge s
  -- behind the cut only the end is stripped: the front is that of the body
  have hcut := Text.strip_eq_dropRight (head?_take_eq_false hbare)
  obtain ⟨cut, hshown, hlost⟩ :=
    Text.exists_of_dropRight isSheetEdge ((Text.strip isSheetEdge s).take maxSheetNameLength)
  refine ⟨front, Text.strip isSheetEdge s, rear, _, cut, hs, fun c hc => ?_, fun c hc => ?_, hshown,
    fun c hc => isSheetEdge_iff.mp (hlost c hc), ?_⟩
  · exact isSheetEdge_iff.mp ((List.mem_append.mp hc).elim (hfront c) (hrear c))
  · exact isSheetEdge_eq_false_iff.mp (hc.elim (hbare.front c) (hbare.rear c))
  · rw [forall₂_shownAs_iff, sheetChars_eq, hcut]

theorem Abridges.sheetChars_eq (h : Abridges s t) (hbare : Text.Bare isSheetEdge t) : sheetChars s = t := by
  obtain ⟨front, body, rear, shown, cut, hs, haround, hbody, hcut, hlost, hshows⟩ := h
  obtain rfl := forall₂_shownAs_iff.mp hshows
  -- each stripping leaves what the description says, as that is bare and has only edges around it
  have hfirst : Text.strip isSheetEdge s = body := by
    refine Text.strip_eq_iff.mpr ⟨⟨fun c hc => ?_, fun c hc => ?_⟩, front, rear, hs, fun c hc => ?_, fun c hc => ?_⟩
    · exact isSheetEdge_eq_false_iff.mpr (hbody c (.inl hc))
    · exact isSheetEdge_eq_false_iff.mpr (hbody c (.inr hc))
    · exact isSheetEdge_iff.mpr (haround c (List.mem_append_left _ hc))
    · exact isSheetEdge_iff.mpr (haround c (List.mem_append_right _ hc))
  have hsecond : Text.strip isSheetEdge (body.take maxSheetNameLength) = shown := by
    refine Text.strip_eq_iff.mpr ⟨(Text.bare_map_iff isSheetEdge_sheetChar).mp hbare, [], cut, hcut, by simp, ?_⟩
    exact fun c hc => isSheetEdge_iff.mpr (hlost c hc)
  rw [Name.sheetChars_eq, hfirst, hsecond]

theorem IsCleaned.abridges (h : IsCleaned t) : Abridges t t := by
  have hsame : List.Forall₂ ShownAs t t := List.forall₂_same.mpr fun c hc => .kept (h.allowed c hc)
  refine ⟨[], t, [], t, [], by simp, by simp, fun c hc => hc.elim (h.front c) (h.rear c), ?_, by simp, hsame⟩
  rw [List.take_of_length_le h.length, List.append_nil]

/-- Nothing is left exactly if there are only edges. -/
theorem sheetChars_eq_nil_iff : sheetChars s = [] ↔ ∀ c ∈ s, isSheetEdge c = true := by
  rw [Name.sheetChars_eq, List.map_eq_nil_iff, ← Text.strip_eq_nil_iff]
  constructor
  · intro h
    rw [Text.strip_eq_nil_iff] at h
    -- the cut keeps the first character of what is stripped, and that is not an edge
    cases hbody : Text.strip isSheetEdge s with
    | nil => rfl
    | cons c rest =>
        have hedge : isSheetEdge c = true := h c (by rw [hbody]; exact List.mem_cons_self)
        have hnot : isSheetEdge c = false := (Text.bare_strip isSheetEdge s).front c (by rw [hbody]; rfl)
        exact absurd (hedge.symm.trans hnot) (by simp)
  · intro h
    rw [h]
    rfl

/-! ## Names -/

theorem cleanSheetName_eq_none_iff {name : String} : cleanSheetName name = none ↔ sheetChars name.toList = [] := by
  unfold cleanSheetName
  split
  · next hnil => simp [hnil]
  · next hne => simpa using hne

theorem cleanSheetName_eq_some_iff {name sheet : String} :
    cleanSheetName name = some sheet ↔ IsCleaned sheet.toList ∧ Abridges name.toList sheet.toList := by
  have hchars : cleanSheetName name = some sheet
      ↔ sheetChars name.toList ≠ [] ∧ sheetChars name.toList = sheet.toList := by
    unfold cleanSheetName
    split
    · next hnil => simp [hnil]
    · next hnil =>
      have hne : sheetChars name.toList ≠ [] := hnil
      simp [hne, ← String.toList_inj]
  rw [hchars]
  constructor
  · rintro ⟨hne, hsheet⟩
    exact hsheet ▸ ⟨isCleaned_sheetChars hne, abridges_sheetChars _⟩
  · rintro ⟨hclean, habridges⟩
    have hsheet := habridges.sheetChars_eq hclean.bare
    exact ⟨hsheet ▸ hclean.notEmpty, hsheet⟩

theorem cleanSheetName_of_isCleaned {name : String} (h : IsCleaned name.toList) : cleanSheetName name = some name :=
  cleanSheetName_eq_some_iff.mpr ⟨h, h.abridges⟩

/-- `SheetCleaning name`: what becomes of a name that a worksheet is to have. -/
structure SheetCleaning (name : String) : Prop where
  /-- Of blanks and apostrophes nothing is left, and of anything else something is. -/
  nothing : cleanSheetName name = none ↔ ∀ c ∈ name.toList, Text.isBlank c = true ∨ c = '\''
  /-- What is left is clean, and it shows the beginning of the name. No other text does both. -/
  something : ∀ sheet : String,
    cleanSheetName name = some sheet ↔ IsCleaned sheet.toList ∧ Abridges name.toList sheet.toList
  /-- A clean name stays as it is, and no other does. -/
  unchanged : cleanSheetName name = some name ↔ IsCleaned name.toList
  /-- To clean twice is to clean once. -/
  again : (cleanSheetName name).bind cleanSheetName = cleanSheetName name

/-- **Cleaning a sheet name** takes off what has to go, and nothing else. -/
theorem sheetCleaning (name : String) : SheetCleaning name where
  nothing := by
    rw [cleanSheetName_eq_none_iff, sheetChars_eq_nil_iff]
    simp only [isSheetEdge_iff]
  something _ := cleanSheetName_eq_some_iff
  unchanged := ⟨fun h => (cleanSheetName_eq_some_iff.mp h).1, cleanSheetName_of_isCleaned⟩
  again := by
    cases hclean : cleanSheetName name with
    | none => rfl
    | some sheet =>
        rw [Option.bind_some]
        exact cleanSheetName_of_isCleaned (cleanSheetName_eq_some_iff.mp hclean).1

/-- The cut uncovers a blank and an apostrophe. -/
example : cleanSheetName ("a/b " ++ String.ofList (List.replicate 25 'c') ++ " 'd")
    = some ("a_b " ++ String.ofList (List.replicate 25 'c')) := by decide +kernel

end ReportServer.Name
