import ReportServer.Proofs.Calendar
import ReportServer.Report.Definition

/-!
# Every report has a file name

A report may be called anything, and its file is offered under a name that is made from that. The name goes into
a header, between quotes, and into a path, between slashes, so it matters what can be in it: nothing but ASCII
letters and digits, hyphens, underscores, the plus sign of a year that is far away, and one dot.
-/

namespace ReportServer

namespace Name

theorem isFilenameChar_of_mem_squeeze {s : List Char} {c : Char} (h : c ∈ squeeze s) :
    isFilenameChar c = true := by
  fun_induction squeeze s with
  | case1 => exact absurd h (by simp)
  | case2 x rest hx ih =>
      rcases List.mem_cons.mp h with rfl | h
      · exact hx
      · exact ih h
  | case3 x rest hx ih =>
      rcases List.mem_cons.mp h with rfl | h
      · decide
      · exact ih h

theorem isFilenameChar_of_mem_filenameChars {s : List Char} {c : Char} (h : c ∈ filenameChars s) :
    isFilenameChar c = true := by
  unfold filenameChars at h
  split at h
  · have hfallback : ∀ x ∈ fallbackFilename, isFilenameChar x = true :=
      List.all_eq_true.mp (by decide)
    exact hfallback c h
  · exact isFilenameChar_of_mem_squeeze ((Text.strip_infix _ _).subset h)

/-- What a file name may hold besides its dot. -/
def IsPlain (c : Char) : Prop := c.isAlphanum = true ∨ c ∈ ['-', '_', '+']

theorem isPlain_of_isFilenameChar {c : Char} (h : isFilenameChar c = true) : IsPlain c := by
  simp only [isFilenameChar, Bool.or_eq_true, beq_iff_eq] at h
  rcases h with (h | rfl) | rfl
  · exact Or.inl h
  · exact Or.inr (by decide)
  · exact Or.inr (by decide)

theorem IsPlain.ne {c x : Char} (h : IsPlain c) (hx : ¬ IsPlain x) : c ≠ x := fun he => hx (he ▸ h)

end Name

theorem Moment.isPlain_of_mem_stamp {m : Moment} {c : Char} (h : c ∈ m.stamp) : Name.IsPlain c :=
  (Moment.of_mem_stamp h).imp_left fun hdigit => by simp [Char.isAlphanum, hdigit]

namespace Report

open Name (IsPlain)

/-- `IsFileName e f`: `f` is a name for a file of the format `e`. -/
structure IsFileName (e : Extension) (f : String) : Prop where
  /-- It holds nothing that means something in a header or in a path. -/
  chars : ∀ c ∈ f.toList, IsPlain c ∨ c = '.'
  /-- It has one dot, -/
  dot : f.toList.count '.' = 1
  /-- and behind it stands the format. -/
  ending : ∃ stem : String, f = stem ++ "." ++ e.name

theorem Extension.isPlain_of_mem_name {e : Extension} {c : Char} (h : c ∈ e.name.toList) : IsPlain c := by
  have hletters : ∀ e : Extension, ∀ x ∈ e.name.toList, x.isAlphanum = true := by
    intro e
    cases e <;> exact List.all_eq_true.mp (by decide)
  exact Or.inl (hletters e c h)

/-- **Whatever a report is called**, its file has a file name. -/
theorem Definition.isFileName_filename (d : Definition) (moment : Moment) :
    IsFileName d.extension (d.filename moment) := by
  have hdot : ¬ IsPlain '.' := by
    rintro (h | h)
    · exact absurd h (by decide)
    · exact absurd h (by decide)
  have hchars : (d.filename moment).toList = (Name.filenameChars d.name.toList ++ '_' :: moment.stamp)
      ++ '.' :: d.extension.name.toList := by
    simp [filename, Name.cleanFilename]
  have hstem : ∀ c ∈ Name.filenameChars d.name.toList ++ '_' :: moment.stamp, IsPlain c := by
    intro c hc
    rcases List.mem_append.mp hc with hc | hc
    · exact Name.isPlain_of_isFilenameChar (Name.isFilenameChar_of_mem_filenameChars hc)
    · rcases List.mem_cons.mp hc with rfl | hc
      · exact Or.inr (by decide)
      · exact Moment.isPlain_of_mem_stamp hc
  constructor
  case chars =>
    intro c hc
    rw [hchars] at hc
    rcases List.mem_append.mp hc with hc | hc
    · exact Or.inl (hstem c hc)
    · rcases List.mem_cons.mp hc with rfl | hc
      · exact Or.inr rfl
      · exact Or.inl (Extension.isPlain_of_mem_name hc)
  case dot =>
    have hnone : ∀ {s : List Char}, (∀ c ∈ s, IsPlain c) → s.count '.' = 0 := fun h =>
      List.count_eq_zero.mpr fun hin => hdot (h '.' hin)
    rw [hchars, List.count_append, List.count_cons_self, hnone hstem,
      hnone fun c hc => Extension.isPlain_of_mem_name hc]
  case ending => exact ⟨Name.cleanFilename d.name ++ "_" ++ String.ofList moment.stamp, rfl⟩

/-- A character that is neither plain nor the dot does not occur. -/
theorem IsFileName.forall_ne {e : Extension} {f : String} (h : IsFileName e f) {x : Char} (hx : ¬ IsPlain x)
    (hdot : x ≠ '.') : ∀ c ∈ f.toList, (c == x) = false := by
  intro c hc
  rw [beq_eq_false_iff_ne]
  rcases h.chars c hc with hc | rfl
  · exact hc.ne hx
  · exact hdot.symm

end Report

end ReportServer
