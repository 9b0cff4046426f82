import ReportServer.Proofs.Text.Lowercase
import ReportServer.Proofs.Text.Stripping
import ReportServer.Report.Stored

/-!
# How a stored extension is read

A stored extension is stripped of blanks and of dots in front, and then made small, in this order, with all that Unicode
knows of blanks and of small letters. What comes out of it is a small grammar. As neither word has a `k`, nothing beyond
ASCII has any of their letters for its lower case. And as dots are stripped only once the blanks are gone, no blank may
stand between them and the letters, and no dot behind the letters.
-/

namespace ReportServer.Report

open Text (IsPlainWord)

/-- A way to write a format: blanks, dots, the letters of its name in whichever case, and blanks. -/
structure Spelling (e : Extension) where
  before : List Char
  dots : List Char
  letters : List Char
  behind : List Char
  blank : ∀ c ∈ before ++ behind, Text.isBlank c = true
  dotted : ∀ c ∈ dots, c = '.'
  spelled : letters.map Char.toLower = e.name.toList

/-- The format as it is written. -/
def Spelling.text {e : Extension} (w : Spelling e) : String :=
  String.ofList (w.before ++ (w.dots ++ w.letters) ++ w.behind)

/-- `Spelled s`: the text is a way to write some format. -/
def Spelled (s : String) : Prop := ∃ (e : Extension) (w : Spelling e), w.text = s

namespace Extension

variable {s : String} {e : Extension}

theorem isPlainWord_name (e : Extension) : IsPlainWord e.name.toList := by
  have hall : e.name.toList.all (fun c => c.isLower && c != 'k') = true := by cases e <;> decide
  exact fun c hc => by simpa using List.all_eq_true.mp hall c hc

theorem eq_of_parse_eq_error {u : UnknownExtension} (h : parse s = .error u) : u = ⟨s⟩ := by
  unfold parse at h
  split at h
  · exact absurd h (by simp)
  · split at h
    · exact absurd h (by simp)
    · exact (Except.error.inj h).symm

end Extension

/-! ## Ways to write a format -/

namespace Spelling

variable {e : Extension}

theorem of_mem_letters (w : Spelling e) {c : Char} (hc : c ∈ w.letters) : Text.isBlank c = false ∧ c ≠ '.' := by
  have hmem : c.toLower ∈ e.name.toList := w.spelled ▸ List.mem_map_of_mem hc
  have hrange := Text.toNat_of_isLower_toLower (e.isPlainWord_name _ hmem).1
  constructor
  · have hapart : Text.blankRanges.all (fun r => decide (r.2 < 65) || decide (122 < r.1)) = true := by decide
    rw [Text.isBlank, Text.inRanges, List.any_eq_false]
    intro r hr
    have hr := List.all_eq_true.mp hapart r hr
    simp only [Bool.or_eq_true, decide_eq_true_eq] at hr
    simp only [Bool.and_eq_true, decide_eq_true_eq]
    omega
  · rintro rfl
    exact absurd hrange (by decide)

theorem bare (w : Spelling e) : Text.Bare Text.isBlank (w.dots ++ w.letters) := by
  have hkept : ∀ c ∈ w.dots ++ w.letters, Text.isBlank c = false := by
    intro c hc
    rcases List.mem_append.mp hc with hc | hc
    · rw [w.dotted c hc]
      decide
    · exact (w.of_mem_letters hc).1
  exact ⟨fun c hc => hkept c (List.mem_of_mem_head? hc), fun c hc => hkept c (List.mem_of_getLast? hc)⟩

theorem stripped (w : Spelling e) :
    (Text.strip Text.isBlank w.text.toList).dropWhile (· == '.') = w.letters := by
  have hstrip : Text.strip Text.isBlank w.text.toList = w.dots ++ w.letters :=
    Text.strip_eq_iff.mpr ⟨w.bare, w.before, w.behind, String.toList_ofList,
      fun c hc => w.blank c (List.mem_append_left _ hc), fun c hc => w.blank c (List.mem_append_right _ hc)⟩
  have hdots : ∀ c ∈ w.dots, (c == '.') = true := fun c hc => beq_iff_eq.mpr (w.dotted c hc)
  rw [hstrip, List.dropWhile_append_of_pos hdots]
  cases hletters : w.letters with
  | nil => rfl
  | cons c rest =>
      have hc : c ≠ '.' := (w.of_mem_letters (by rw [hletters]; exact List.mem_cons_self)).2
      rw [List.dropWhile_cons_of_neg (by simpa using hc)]

/-- A format is one way to write itself. -/
def ofName (e : Extension) : Spelling e where
  before := []
  dots := []
  letters := e.name.toList
  behind := []
  blank := by simp
  dotted := by simp
  spelled := by cases e <;> decide

theorem text_ofName (e : Extension) : (ofName e).text = e.name := by
  simp [text, ofName]

end Spelling

/-! ## Reading -/

namespace Extension

variable {s : String} {e : Extension}

theorem normalized_eq_name_iff : normalized s = e.name ↔ ∃ w : Spelling e, w.text = s := by
  rw [normalized, Text.lowercase_eq_iff (isPlainWord_name e), String.toList_ofList]
  constructor
  · intro h
    obtain ⟨-, before, behind, hs, hbefore, hbehind⟩ := Text.stripped_strip Text.isBlank s.toList
    refine ⟨⟨before, (Text.strip Text.isBlank s.toList).takeWhile (· == '.'), _, behind, fun c hc => ?_, fun c hc => ?_,
      h⟩, ?_⟩
    · exact (List.mem_append.mp hc).elim (hbefore c) (hbehind c)
    · exact beq_iff_eq.mp (List.mem_takeWhile_imp (p := (· == '.')) hc)
    · rw [Spelling.text, List.takeWhile_append_dropWhile, ← hs, String.ofList_toList]
  · rintro ⟨w, rfl⟩
    rw [w.stripped, w.spelled]

/-- **A stored extension is read as a format exactly if it is a way to write it.** -/
theorem parse_eq_ok_iff : parse s = .ok e ↔ ∃ w : Spelling e, w.text = s := by
  rw [← normalized_eq_name_iff]
  constructor
  · intro h
    unfold parse at h
    split at h
    · next hcsv => rw [hcsv, ← Except.ok.inj h, name]
    · split at h
      · next hxlsx => rw [hxlsx, ← Except.ok.inj h, name]
      · exact absurd h (by simp)
  · intro h
    cases e with
    | csv =>
        rw [name] at h
        rw [parse, if_pos h]
    | xlsx =>
        rw [name] at h
        have hne : normalized s ≠ "csv" := by
          rw [h]
          decide
        rw [parse, if_neg hne, if_pos h]

/-- Everything else is refused as it is. -/
theorem parse_eq_error_iff : parse s = .error ⟨s⟩ ↔ ¬Spelled s := by
  have hok : Spelled s ↔ ∃ e : Extension, parse s = .ok e := exists_congr fun _ => parse_eq_ok_iff.symm
  rw [hok]
  cases hparse : parse s with
  | ok e => simp
  | error u => simp [eq_of_parse_eq_error hparse]

end Extension

/-! ## Stored definitions -/

/-- `ReadExactly s`: what comes of the stored extension `s`, and of the stored definitions that have it. -/
structure ReadExactly (s : String) : Prop where
  /-- It names a format exactly if it is a way to write it, -/
  format : ∀ e : Extension, Extension.parse s = .ok e ↔ ∃ w : Spelling e, w.text = s
  /-- and if it is no way to write any, it is refused, unchanged. -/
  unknown : Extension.parse s = .error ⟨s⟩ ↔ ¬Spelled s
  /-- A stored definition is the same as if the format were written plainly. -/
  plain : ∀ (e : Extension) (w : Spelling e), w.text = s → ∀ x : Stored, x.extension = s →
    x.definition = .ok ⟨x.id, x.name, x.query, e, x.sheetNumber, x.createdBy, x.createdAt⟩
      ∧ x.definition = { x with extension := e.name }.definition
  /-- One whose extension is refused is misconfigured, and what is said about it quotes the extension. -/
  misconfigured : ¬Spelled s → ∀ x : Stored, x.extension = s → x.definition
    = .error (.configuration ("Invalid report file extension '" ++ s ++ "' (expected one of: csv, xlsx)"))

theorem Stored.definition_of_spelling {x : Stored} {e : Extension} (w : Spelling e) (hw : w.text = x.extension) :
    x.definition = .ok ⟨x.id, x.name, x.query, e, x.sheetNumber, x.createdBy, x.createdAt⟩ := by
  rw [definition, Extension.parse_eq_ok_iff.mpr ⟨w, hw⟩]

/-- **A stored extension is read by an exact grammar**, and nothing stands in for one that is not in it. -/
theorem readExactly (s : String) : ReadExactly s where
  format _ := Extension.parse_eq_ok_iff
  unknown := Extension.parse_eq_error_iff
  plain := by
    rintro e w rfl x hx
    have hplain := Stored.definition_of_spelling (x := { x with extension := e.name }) _ (Spelling.text_ofName e)
    have hdefinition := Stored.definition_of_spelling w hx.symm
    exact ⟨hdefinition, hdefinition.trans hplain.symm⟩
  misconfigured := by
    rintro hnone x rfl
    rw [Stored.definition, Extension.parse_eq_error_iff.mpr hnone]
    rfl

example : Extension.parse "\u3000..XlSx " = .ok .xlsx := by decide +kernel

example : Extension.parse ". xlsx" = .error ⟨". xlsx"⟩ := by decide +kernel

end ReportServer.Report
