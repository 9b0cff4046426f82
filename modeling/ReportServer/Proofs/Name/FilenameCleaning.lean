import Mathlib.Data.List.TakeWhile
import ReportServer.Proofs.Name.Filename
import ReportServer.Proofs.Text.Stripping
import ReportServer.Text.Split

/-!
# What a cleaned file name keeps

The letters, digits and hyphens of a name are what makes it recognisable, and cleaning loses none of them. Between two
of them there may be anything. Underscores stay, each run of what a file name cannot hold becomes one more, and no
underscore appears where nothing stood. Around them nothing stays. A name in which none of them occurs has nothing to be
recognised by, and it is replaced altogether.

The gaps are counted by splitting: the characters that a file name keeps are the separators, and what stands between
two of them, if anything does, is a run.
-/

namespace ReportServer.Name

/-- Letters, digits and the hyphen: what a file name keeps and can begin and end with. -/
def isSolid (c : Char) : Bool := c.isAlphanum || c == '-'

/-- The maximal runs of characters that a file name cannot hold. -/
def foreignRuns (s : List Char) : List (List Char) := (Text.splitWhere isFilenameChar s).filter (!·.isEmpty)

/-- How many underscores a gap is worth: one for each that is there, and one for each run of what cannot stay. -/
def gapWidth (gap : List Char) : Nat := gap.count '_' + (foreignRuns gap).length

/-- `IsTidy s`: there is nothing to clean about the file name `s`. -/
structure IsTidy (s : List Char) : Prop where
  notEmpty : s ≠ []
  chars : ∀ c ∈ s, c.isAlphanum = true ∨ c = '-' ∨ c = '_'
  /-- No underscore stands at its front, -/
  front : s.head? ≠ some '_'
  /-- and none at its end. -/
  rear : s.getLast? ≠ some '_'

/-- `Apart s a gap b before behind`: in `s` the gap stands between `a` and `b`, which are two letters, digits or hyphens
with none between them. `before` and `behind` are those on either side. -/
structure Apart (s : List Char) (a : Char) (gap : List Char) (b : Char) (before behind : List Char) : Prop where
  ends : isSolid a = true ∧ isSolid b = true
  empty : ∀ c ∈ gap, isSolid c = false
  place : ∃ l r : List Char, s = l ++ a :: (gap ++ b :: r) ∧ l.filter isSolid = before ∧ r.filter isSolid = behind

variable {s gap : List Char} {a b : Char}

/-! ## Characters -/

theorem isFilenameChar_iff {c : Char} : isFilenameChar c = true ↔ isSolid c = true ∨ c = '_' := by
  simp [isFilenameChar, isSolid]

theorem isFilenameChar_of_isSolid {c : Char} (h : isSolid c = true) : isFilenameChar c = true :=
  isFilenameChar_iff.mpr (.inl h)

theorem ne_underscore_of_isSolid {c : Char} (h : isSolid c = true) : (c == '_') = false := by
  rw [beq_eq_false_iff_ne]
  rintro rfl
  exact absurd h (by decide)

theorem eq_underscore_of_not_isSolid {c : Char} (h : isFilenameChar c = true) (hnot : isSolid c = false) : c = '_' :=
  (isFilenameChar_iff.mp h).resolve_left (by simp [hnot])

theorem isSolid_eq_false_of_not {c : Char} (h : ¬isFilenameChar c = true) : isSolid c = false :=
  Bool.eq_false_iff.mpr (mt isFilenameChar_of_isSolid h)

theorem not_isSolid_of_underscore {c : Char} (h : (c == '_') = true) : isSolid c = false := by
  rw [beq_iff_eq.mp h]
  decide

theorem forall_not_or_exists_isSolid (s : List Char) :
    (∀ c ∈ s, isSolid c = false) ∨ ∃ c ∈ s, isSolid c = true := by
  cases hany : s.any isSolid with
  | false => exact .inl fun c hc => by simpa using List.any_eq_false.mp hany c hc
  | true => exact .inr (List.any_eq_true.mp hany)

section Dropping

variable {p : Char → Bool} (h : ∀ c : Char, p c = true → isSolid c = false) (s : List Char)
include h

theorem filter_dropWhile : (s.dropWhile p).filter isSolid = s.filter isSolid := by
  have hnone : (s.takeWhile p).filter isSolid = [] :=
    List.filter_eq_nil_iff.mpr fun c hc => by simp [h c (List.mem_takeWhile_imp hc)]
  calc (s.dropWhile p).filter isSolid
      = (s.takeWhile p ++ s.dropWhile p).filter isSolid := by rw [List.filter_append, hnone, List.nil_append]
    _ = s.filter isSolid := by rw [List.takeWhile_append_dropWhile]

theorem filter_dropRight : (Text.dropRight p s).filter isSolid = s.filter isSolid := by
  rw [Text.dropRight, List.filter_reverse, filter_dropWhile h, ← List.filter_reverse, List.reverse_reverse]

end Dropping

/-! ## Runs -/

theorem foreignRuns_append_cons {c : Char} (h : isFilenameChar c = true) (s t : List Char) :
    foreignRuns (s ++ c :: t) = foreignRuns s ++ foreignRuns t := by
  rw [foreignRuns, Text.splitWhere_append_cons h, List.filter_append]
  rfl

theorem foreignRuns_of_forall_not (h : ∀ c ∈ s, isFilenameChar c = false) (hne : s ≠ []) : foreignRuns s = [s] := by
  rw [foreignRuns, Text.splitWhere_of_forall_not h]
  simp [hne]

theorem gapWidth_underscore (s : List Char) : gapWidth ('_' :: s) = gapWidth s + 1 := by
  have hruns : foreignRuns ('_' :: s) = foreignRuns s := foreignRuns_append_cons (by decide) [] s
  rw [gapWidth, hruns, List.count_cons_self, gapWidth]
  omega

/-- A run at the front of a gap is worth one underscore, however long it is. -/
theorem gapWidth_foreign {c : Char} (hc : ¬isFilenameChar c = true) (s : List Char) :
    gapWidth (c :: s) = gapWidth (s.dropWhile (!isFilenameChar ·)) + 1 := by
  have hrun : ∀ x ∈ c :: s.takeWhile (!isFilenameChar ·), isFilenameChar x = false := by
    intro x hx
    rcases List.mem_cons.mp hx with rfl | hx
    · simpa using hc
    · simpa using List.mem_takeWhile_imp hx
  have hwhole : c :: s = (c :: s.takeWhile (!isFilenameChar ·)) ++ s.dropWhile (!isFilenameChar ·) := by
    rw [List.cons_append, List.takeWhile_append_dropWhile]
  have hcount : (c :: s.takeWhile (!isFilenameChar ·)).count '_' = 0 :=
    List.count_eq_zero.mpr fun hin => absurd (hrun '_' hin) (by decide)
  -- the run ends where the gap ends, or before a character that is kept
  have hruns : (foreignRuns (c :: s)).length = (foreignRuns (s.dropWhile (!isFilenameChar ·))).length + 1 := by
    rw [hwhole]
    cases hrest : s.dropWhile (!isFilenameChar ·) with
    | nil =>
        rw [List.append_nil, foreignRuns_of_forall_not hrun (by simp)]
        rfl
    | cons k rest =>
        have hk : isFilenameChar k = true := by
          have hnot := List.head?_dropWhile_not (!isFilenameChar ·) s
          rw [hrest] at hnot
          simpa using hnot
        have hnone : foreignRuns (k :: rest) = foreignRuns rest := foreignRuns_append_cons hk [] rest
        rw [foreignRuns_append_cons hk, foreignRuns_of_forall_not hrun (by simp), hnone, List.length_append,
          List.length_singleton]
        omega
  rw [gapWidth, hruns, hwhole, List.count_append, hcount, gapWidth]
  omega

theorem gapWidth_eq_zero_iff (h : ∀ c ∈ gap, isSolid c = false) : gapWidth gap = 0 ↔ gap = [] := by
  cases gap with
  | nil => exact iff_of_true rfl rfl
  | cons c rest =>
      refine iff_of_false ?_ (by simp)
      by_cases hc : isFilenameChar c = true
      · have hunderscore := eq_underscore_of_not_isSolid hc (h c List.mem_cons_self)
        rw [hunderscore, gapWidth_underscore]
        omega
      · rw [gapWidth_foreign hc]
        omega

/-! ## Squeezing -/

theorem squeeze_append_cons {c : Char} (h : isFilenameChar c = true) (s t : List Char) :
    squeeze (s ++ c :: t) = squeeze s ++ c :: squeeze t := by
  fun_induction squeeze s with
  | case1 => rw [List.nil_append, squeeze, if_pos h, List.nil_append]
  | case2 x rest hx ih => rw [List.cons_append, squeeze, if_pos hx, ih, List.cons_append]
  | case3 x rest hx ih =>
      have hstop : (!isFilenameChar c) = false := by rw [h]; rfl
      rw [List.cons_append, squeeze, if_neg hx, Text.dropWhile_append_cons hstop, ih, List.cons_append]

theorem squeeze_eq_self (h : ∀ c ∈ s, isFilenameChar c = true) : squeeze s = s := by
  induction s with
  | nil => rw [squeeze]
  | cons c rest ih =>
      rw [squeeze, if_pos (h c List.mem_cons_self), ih fun x hx => h x (List.mem_cons_of_mem c hx)]

/-- Squeezing loses nothing solid. -/
theorem filter_squeeze (s : List Char) : (squeeze s).filter isSolid = s.filter isSolid := by
  fun_induction squeeze s with
  | case1 => rfl
  | case2 x rest hx ih => rw [List.filter_cons, ih, ← List.filter_cons]
  | case3 x rest hx ih =>
      have hdrop := filter_dropWhile (p := fun c => !isFilenameChar c)
        (fun c hc => isSolid_eq_false_of_not (by simpa using hc)) rest
      rw [List.filter_cons_of_neg (by decide), ih, hdrop,
        List.filter_cons_of_neg (by simp [isSolid_eq_false_of_not hx])]

/-- A gap is squeezed into what it is worth. -/
theorem squeeze_gap (h : ∀ c ∈ gap, isSolid c = false) : squeeze gap = List.replicate (gapWidth gap) '_' := by
  fun_induction squeeze gap with
  | case1 => rfl
  | case2 x rest hx ih =>
      have hrest : ∀ c ∈ rest, isSolid c = false := fun c hc => h c (List.mem_cons_of_mem x hc)
      rw [eq_underscore_of_not_isSolid hx (h x List.mem_cons_self), gapWidth_underscore, List.replicate_succ, ih hrest]
  | case3 x rest hx ih =>
      have hrest : ∀ c ∈ rest.dropWhile (!isFilenameChar ·), isSolid c = false := fun c hc =>
        h c (List.mem_cons_of_mem x ((List.dropWhile_suffix _).subset hc))
      rw [gapWidth_foreign hx, List.replicate_succ, ih hrest]

/-! ## What is left -/

theorem strip_squeeze_eq_nil_iff : Text.strip (· == '_') (squeeze s) = [] ↔ ∀ c ∈ s, isSolid c = false := by
  have hsolid : ∀ {s : List Char}, (∀ c ∈ s, isSolid c = false) ↔ s.filter isSolid = [] := by
    intro s
    simp [List.filter_eq_nil_iff]
  rw [Text.strip_eq_nil_iff, hsolid, ← filter_squeeze, ← hsolid]
  -- of the characters that a file name keeps only the underscore is not solid
  constructor
  · intro h c hc
    exact not_isSolid_of_underscore (h c hc)
  · intro h c hc
    exact beq_iff_eq.mpr (eq_underscore_of_not_isSolid (isFilenameChar_of_mem_squeeze hc) (h c hc))

theorem filenameChars_of_none (h : ∀ c ∈ s, isSolid c = false) : filenameChars s = fallbackFilename := by
  rw [filenameChars, strip_squeeze_eq_nil_iff.mpr h]

theorem filenameChars_of_exists (h : ∃ c ∈ s, isSolid c = true) :
    filenameChars s = Text.strip (· == '_') (squeeze s) := by
  obtain ⟨c, hc, hsolid⟩ := h
  unfold filenameChars
  split
  · next hnone => exact absurd (strip_squeeze_eq_nil_iff.mp hnone c hc) (by simp [hsolid])
  · rfl

theorem filter_filenameChars_iff :
    (filenameChars s).filter isSolid = s.filter isSolid ↔ ∃ c ∈ s, isSolid c = true := by
  rcases forall_not_or_exists_isSolid s with hnone | hsome
  · -- the fallback has letters, and the name has none
    have hempty : s.filter isSolid = [] := List.filter_eq_nil_iff.mpr fun c hc => by simp [hnone c hc]
    refine iff_of_false ?_ fun ⟨c, hc, hsolid⟩ => absurd (hnone c hc) (by simp [hsolid])
    rw [filenameChars_of_none hnone, hempty]
    decide
  · refine iff_of_true ?_ hsome
    rw [filenameChars_of_exists hsome, Text.strip, filter_dropRight fun _ => not_isSolid_of_underscore,
      filter_dropWhile fun _ => not_isSolid_of_underscore, filter_squeeze]

theorem isTidy_filenameChars (s : List Char) : IsTidy (filenameChars s) := by
  have hchars : ∀ c ∈ filenameChars s, c.isAlphanum = true ∨ c = '-' ∨ c = '_' := fun c hc => by
    simpa [isFilenameChar, or_assoc] using isFilenameChar_of_mem_filenameChars hc
  rcases forall_not_or_exists_isSolid s with hnone | hsome
  · rw [filenameChars_of_none hnone] at hchars ⊢
    exact ⟨by decide, hchars, by decide, by decide⟩
  · have hbare := Text.bare_strip (· == '_') (squeeze s)
    rw [filenameChars_of_exists hsome] at hchars ⊢
    refine ⟨fun hnil => ?_, hchars, fun hfront => ?_, fun hrear => ?_⟩
    · obtain ⟨c, hc, hsolid⟩ := hsome
      exact absurd (strip_squeeze_eq_nil_iff.mp hnil c hc) (by simp [hsolid])
    · exact absurd (hbare.front '_' hfront) (by decide)
    · exact absurd (hbare.rear '_' hrear) (by decide)

/-- **Two neighbours stay neighbours**, as many underscores apart as what was between them is worth. -/
theorem Apart.filenameChars {before behind : List Char} (h : Apart s a gap b before behind) :
    Apart (filenameChars s) a (List.replicate (gapWidth gap) '_') b before behind := by
  obtain ⟨⟨ha, hb⟩, hgap, l, r, rfl, rfl, rfl⟩ := h
  have hsqueezed : squeeze (l ++ a :: (gap ++ b :: r))
      = squeeze l ++ a :: (List.replicate (gapWidth gap) '_' ++ b :: squeeze r) := by
    rw [squeeze_append_cons (isFilenameChar_of_isSolid ha), squeeze_append_cons (isFilenameChar_of_isSolid hb),
      squeeze_gap hgap]
  refine ⟨⟨ha, hb⟩, fun c hc => ?_, (squeeze l).dropWhile (· == '_'), Text.dropRight (· == '_') (squeeze r), ?_, ?_, ?_⟩
  · rw [List.eq_of_mem_replicate hc]
    decide
  · rw [filenameChars_of_exists ⟨a, by simp, ha⟩, hsqueezed, Text.strip,
      Text.dropWhile_append_cons (p := (· == '_')) (ne_underscore_of_isSolid ha), ← List.cons_append, ← List.append_assoc,
      Text.dropRight_append_cons (p := (· == '_')) (ne_underscore_of_isSolid hb), List.append_assoc, List.cons_append]
  · rw [filter_dropWhile fun _ => not_isSolid_of_underscore, filter_squeeze]
  · rw [filter_dropRight fun _ => not_isSolid_of_underscore, filter_squeeze]

theorem IsTidy.filenameChars_eq (h : IsTidy s) : filenameChars s = s := by
  have hkept : ∀ c ∈ s, isFilenameChar c = true := fun c hc => by
    simpa [isFilenameChar, or_assoc] using h.chars c hc
  have hbare : Text.Bare (· == '_') s := by
    constructor
    · rintro c hc
      rw [beq_eq_false_iff_ne]
      rintro rfl
      exact h.front hc
    · rintro c hc
      rw [beq_eq_false_iff_ne]
      rintro rfl
      exact h.rear hc
  have hsolid : ∃ c ∈ s, isSolid c = true := by
    -- the first character is no underscore
    cases hs : s with
    | nil => exact absurd hs h.notEmpty
    | cons c rest =>
        have hc : c ∈ s := by rw [hs]; exact List.mem_cons_self
        refine ⟨c, List.mem_cons_self, (isFilenameChar_iff.mp (hkept c hc)).resolve_right ?_⟩
        rintro rfl
        exact h.front (by rw [hs]; rfl)
  rw [filenameChars_of_exists hsolid, squeeze_eq_self hkept, hbare.strip_eq]

/-! ## Names -/

theorem toList_cleanFilename (name : String) : (cleanFilename name).toList = filenameChars name.toList :=
  String.toList_ofList

theorem cleanFilename_of_isTidy {name : String} (h : IsTidy name.toList) : cleanFilename name = name := by
  rw [← String.toList_inj, toList_cleanFilename, h.filenameChars_eq]

/-- `FilenameCleaning name`: what becomes of a name that a file is to have. -/
structure FilenameCleaning (name : String) : Prop where
  tidy : IsTidy (cleanFilename name).toList
  /-- A name without letters, digits and hyphens is replaced, -/
  fallback : (∀ c ∈ name.toList, isSolid c = false) → cleanFilename name = "report"
  /-- and from no other name any of them is lost, added or moved. -/
  solids : (cleanFilename name).toList.filter isSolid = name.toList.filter isSolid ↔ ∃ c ∈ name.toList, isSolid c = true
  /-- Between two neighbours stand as many underscores as what stood there is worth, and none exactly if nothing did. -/
  gaps : ∀ (a : Char) (gap : List Char) (b : Char) (before behind : List Char),
    Apart name.toList a gap b before behind →
      Apart (cleanFilename name).toList a (List.replicate (gapWidth gap) '_') b before behind
        ∧ (gapWidth gap = 0 ↔ gap = [])
  /-- A tidy name stays as it is, and no other does. -/
  unchanged : cleanFilename name = name ↔ IsTidy name.toList
  /-- To clean twice is to clean once. -/
  again : cleanFilename (cleanFilename name) = cleanFilename name

/-- **Cleaning a file name** loses nothing that the name is recognised by. -/
theorem filenameCleaning (name : String) : FilenameCleaning name := by
  have htidy : IsTidy (cleanFilename name).toList := by
    rw [toList_cleanFilename]
    exact isTidy_filenameChars _
  constructor
  case tidy => exact htidy
  case fallback =>
    intro h
    rw [cleanFilename, filenameChars_of_none h]
    rfl
  case solids =>
    rw [toList_cleanFilename]
    exact filter_filenameChars_iff
  case gaps =>
    intro a gap b before behind h
    rw [toList_cleanFilename]
    exact ⟨h.filenameChars, gapWidth_eq_zero_iff h.empty⟩
  case unchanged =>
    constructor
    · intro h
      rwa [h] at htidy
    · exact cleanFilename_of_isTidy
  case again => exact cleanFilename_of_isTidy htidy

/-- Two underscores and two runs make four. -/
example : cleanFilename "_Q1_ _/ sales." = "Q1____sales" := by decide +kernel

end ReportServer.Name
