import ReportServer.Delivery.Publication
import ReportServer.Proofs.Name.Filename
import ReportServer.Proofs.Text.Bytes
import ReportServer.Report.Tracking
import ReportServer.Text.Alphanumeric
import ReportServer.Text.Split

/-!
# A file is offered under its name

The name of a file stands in a header of the answer, between quotes, and at the end of the location that is
tracked, behind a slash. A file that is made for a report has a name that keeps to its place in both. Other names
may not, and a control character in one of them is what keeps an artifact from being published.
-/

namespace ReportServer.Delivery

open Report (Artifact Definition Extension IsFileName)

/-! ## In a header -/

/-- A character that cannot be sent is a control character other than the tab, or the delete character. -/
theorem isHeaderChar_eq_false_iff {c : Char} : Http.isHeaderChar c = false ↔
    c.toNat < 0x20 ∧ c.toNat ≠ 0x09 ∨ c.toNat = 0x7F := by
  have htab : c = '\t' ↔ c.toNat = 0x09 := by
    rw [← Char.toNat_inj]
    rfl
  simp only [Http.isHeaderChar, ← Bool.not_eq_true, Bool.or_eq_true, beq_iff_eq, htab, Bool.and_eq_true,
    decide_eq_true_eq, bne_iff_ne]
  omega

theorem toList_disposition (a : Artifact) :
    a.disposition.toList = "attachment; filename=".toList ++ '"' :: (a.filename.toList ++ ['"']) := by
  have happend (s t u : String) : (s ++ t ++ u).toList = s.toList ++ (t.toList ++ u.toList) := by
    simp only [String.toList_append, List.append_assoc]
  have hopen : "attachment; filename=\"".toList = "attachment; filename=".toList ++ ['"'] := by decide
  calc a.disposition.toList
      = "attachment; filename=\"".toList ++ (a.filename.toList ++ "\"".toList) := happend _ _ _
    _ = ("attachment; filename=".toList ++ ['"']) ++ (a.filename.toList ++ ['"']) := congrArg (· ++ _) hopen
    _ = "attachment; filename=".toList ++ '"' :: (a.filename.toList ++ ['"']) := List.append_assoc _ _ _

theorem isHeaderValue_disposition_iff {a : Artifact} :
    Http.isHeaderValue a.disposition = true ↔ ∀ c ∈ a.filename.toList, Http.isHeaderChar c = true := by
  have hbefore : ∀ c ∈ "attachment; filename=".toList, Http.isHeaderChar c = true :=
    List.all_eq_true.mp (by decide)
  have hquote : Http.isHeaderChar '"' = true := by decide
  rw [Http.isHeaderValue, List.all_eq_true, toList_disposition]
  simp only [List.forall_mem_append, List.forall_mem_cons, hquote, true_and, List.not_mem_nil,
    false_imp_iff, implies_true, and_true]
  exact and_iff_right hbefore

/-- **When an artifact cannot be published**: some byte of its name is a control. -/
theorem publish_eq_error_iff {a : Artifact} : (∃ detail : String, publish a = .error (.response detail)) ↔
    ∃ b ∈ Text.utf8 a.filename, b.toNat < 0x20 ∧ b.toNat ≠ 0x09 ∨ b.toNat = 0x7F := by
  have hchars : Http.isHeaderValue a.disposition = false
      ↔ ∃ c ∈ a.filename.toList, Http.isHeaderChar c = false := by
    rw [← Bool.not_eq_true, isHeaderValue_disposition_iff]
    simp
  rw [Text.exists_mem_utf8_iff (p := fun n => n < 0x20 ∧ n ≠ 0x09 ∨ n = 0x7F) fun n hn => by omega]
  simp only [← isHeaderChar_eq_false_iff]
  rw [← hchars, publish]
  cases Http.isHeaderValue a.disposition <;> simp

/-! ## The names of reports -/

/-- A plain character lies between the blank and the delete character. -/
theorem isHeaderChar_of_isPlain {c : Char} (h : Name.IsPlain c) : Http.isHeaderChar c = true := by
  have hrange : 0x20 ≤ c.toNat ∧ c.toNat < 0x7F := by
    rcases h with h | h
    · have hbetween := Text.toNat_of_isAlphanum h
      omega
    · have hlist : ∀ x ∈ ['-', '_', '+'], 0x20 ≤ x.toNat ∧ x.toNat < 0x7F := by simp
      exact hlist c h
  simp only [Http.isHeaderChar, Bool.or_eq_true, Bool.and_eq_true, decide_eq_true_eq, bne_iff_ne]
  omega

/-- The name of a report's file can stand in a header, -/
theorem isHeaderValue_of_isFileName {a : Artifact} {e : Extension} (h : IsFileName e a.filename) :
    Http.isHeaderValue a.disposition = true := by
  refine isHeaderValue_disposition_iff.mpr fun c hc => ?_
  rcases h.chars c hc with hc | rfl
  · exact isHeaderChar_of_isPlain hc
  · decide

/-- so the file can be published. -/
theorem publish_of_isFileName {a : Artifact} {e : Extension} (h : IsFileName e a.filename) :
    publish a = .ok (headersOf a, .start a.bytes) := by
  rw [publish, if_pos (isHeaderValue_of_isFileName h)]

/-- Between the quotes of the header stands the name. -/
theorem splitText_disposition {a : Artifact} {e : Extension} (h : IsFileName e a.filename) :
    Text.splitText '"' a.disposition = ["attachment; filename=", a.filename, ""] := by
  have hbefore : ∀ c ∈ "attachment; filename=".toList, (c == '"') = false := by simp
  have hname : ∀ c ∈ a.filename.toList, (c == '"') = false :=
    h.forall_ne (by rw [Name.IsPlain]; decide) (by decide)
  rw [Text.splitText, toList_disposition, Text.splitWhere_append_cons (by decide),
    Text.splitWhere_of_forall_not hbefore, Text.splitWhere_append_cons (by decide),
    Text.splitWhere_of_forall_not hname]
  simp [Text.splitWhere]

/-- At the end of the location stands the name, and before it the folder of the format. -/
theorem splitText_outputLocation {f : String} {e : Extension} (h : IsFileName e f) (base : String)
    (e' : Extension) : Text.splitText '/' (Report.outputLocation base e' f)
      = (if (Text.dropTrailingSlashes base).isEmpty then []
          else Text.splitText '/' (Text.dropTrailingSlashes base)) ++ [e'.folder, f] := by
  have hfolder : ∀ c ∈ e'.folder.toList, (c == '/') = false := by
    cases e' <;> simp [Extension.folder]
  have hname : ∀ c ∈ f.toList, (c == '/') = false :=
    h.forall_ne (by rw [Name.IsPlain]; decide) (by decide)
  have hinside : Text.splitWhere (· == '/') (e'.folder.toList ++ '/' :: f.toList)
      = [e'.folder.toList, f.toList] := by
    rw [Text.splitWhere_append_cons (by decide), Text.splitWhere_of_forall_not hfolder,
      Text.splitWhere_of_forall_not hname]
    rfl
  have hlist : (e'.folder ++ "/" ++ f).toList = e'.folder.toList ++ '/' :: f.toList := by simp
  rw [Report.outputLocation, Text.splitText]
  split
  · rw [hlist, hinside]
    simp
  · -- a base has slashes of its own, so it keeps its parts, and the two that are known come behind them
    have hbase : (Text.dropTrailingSlashes base ++ "/" ++ (e'.folder ++ "/" ++ f)).toList
        = (Text.dropTrailingSlashes base).toList ++ '/' :: (e'.folder.toList ++ '/' :: f.toList) := by
      rw [String.toList_append, hlist]
      simp
    rw [hbase, Text.splitWhere_append_cons (by decide), hinside]
    simp [Text.splitText]

theorem filename_of_encode {pack : Workbook → List UInt8} {d : Definition} {t : Table} {moment : Moment}
    {a : Artifact} (h : d.encode pack t moment = .ok a) : a.filename = d.filename moment := by
  obtain ⟨bytes, -, rfl⟩ := Definition.encode_eq_ok_iff.mp h
  rfl

/-- **A file is offered under its name.** Whatever a report is called and whenever its file is made, the file has a
file name. Every artifact made for the report is published, the text between the quotes of the header that offers
it is that name, and the location tracked for it ends in the folder of the format and that name, whatever base it
is below. Of all artifacts, those are refused whose name has a control byte other than the tab in it. -/
theorem offered_under_its_name (pack : Workbook → List UInt8) (d : Definition) (moment : Moment) :
    IsFileName d.extension (d.filename moment)
    ∧ (∀ (t : Table) (a : Artifact), d.encode pack t moment = .ok a →
        publish a = .ok (headersOf a, .start a.bytes)
        ∧ ∃ offer : String, (headersOf a).all "content-disposition" = [offer]
          ∧ Text.splitText '"' offer = ["attachment; filename=", d.filename moment, ""])
    ∧ (∀ (base : String) (e : Extension), ∃ before : List String,
        Text.splitText '/' (Report.outputLocation base e (d.filename moment))
          = before ++ [e.folder, d.filename moment])
    ∧ ∀ a : Artifact, (∃ detail : String, publish a = .error (.response detail)) ↔
        ∃ b ∈ Text.utf8 a.filename, b.toNat < 0x20 ∧ b.toNat ≠ 0x09 ∨ b.toNat = 0x7F := by
  have hname : IsFileName d.extension (d.filename moment) := d.isFileName_filename moment
  refine ⟨hname, fun t a hencode => ?_, fun base e => ⟨_, splitText_outputLocation hname base e⟩, fun a =>
    publish_eq_error_iff⟩
  have hfilename : a.filename = d.filename moment := filename_of_encode hencode
  rw [← hfilename] at hname ⊢
  exact ⟨publish_of_isFileName hname, a.disposition, by simp [headersOf, Http.Headers.all],
    splitText_disposition hname⟩

/-- A name with quotes, slashes, dots and a line break. -/
def crookedDefinition : Definition :=
  ⟨7, "../sales \"March\"\r\n/Süd.xlsx", "SELECT 1", .csv, 1, none, ⟨⟨2024, 2, 3⟩, 0, 0, 0, 0⟩⟩

/-- A table without rows and columns. -/
def nothingFound : Table := ⟨[], [], fun _ h => absurd h List.not_mem_nil⟩

theorem offered_under_its_name_crooked : ∃ a : Artifact,
    crookedDefinition.encode (fun _ => []) nothingFound ⟨⟨12024, 2, 3⟩, 4, 5, 6, 7⟩ = .ok a
    ∧ publish a = .ok (headersOf a, .start a.bytes)
    ∧ ∃ offer : String, (headersOf a).all "content-disposition" = [offer] ∧ Text.splitText '"' offer
      = ["attachment; filename=", "sales_March_S_d_xlsx_+120240203_040506.csv", ""] := by
  have hname : crookedDefinition.filename ⟨⟨12024, 2, 3⟩, 4, 5, 6, 7⟩
      = "sales_March_S_d_xlsx_+120240203_040506.csv" := by decide +kernel
  obtain ⟨-, hoffered, -, -⟩ :=
    offered_under_its_name (fun _ => []) crookedDefinition ⟨⟨12024, 2, 3⟩, 4, 5, 6, 7⟩
  obtain ⟨hpublish, offer, hoffer, hsplit⟩ := hoffered nothingFound _ rfl
  exact ⟨_, rfl, hpublish, offer, hoffer, hname ▸ hsplit⟩

end ReportServer.Delivery
