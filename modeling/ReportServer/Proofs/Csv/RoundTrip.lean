import Mathlib.Data.List.Basic
import ReportServer.Csv.Reader
import ReportServer.Csv.Writer

/-!
# What is written as CSV is read back

A field may hold every character that means something to the reader, and the next field starts right
behind it. So nothing is proved of a field alone: each statement here says what a reader that has
already read something makes of the next piece, whatever that something was.

A reader that has taken a written field is not inside quotes any more. It may have just seen the
closing quote, or never have seen one; a comma or a line feed ends the field either way, and that
is all the next piece has to know.
-/

namespace ReportServer.Csv

namespace Reader

variable {rs : List (List (List Char))} {fs : List (List Char)} {cur : List Char}

theorem feed_cons (r : Reader) (c : Char) (s : List Char) : r.feed (c :: s) = (r.step c).feed s := rfl

theorem feed_append (r : Reader) (s s' : List Char) : r.feed (s ++ s') = (r.feed s).feed s' :=
  List.foldl_append

/-! ## One field -/

/-- Characters that mean nothing to the reader belong to the field. -/
theorem feed_plain {s : List Char} (h : ∀ c ∈ s, isSpecial c = false) :
    feed ⟨rs, fs, cur, .outside⟩ s = ⟨rs, fs, cur ++ s, .outside⟩ := by
  induction s generalizing cur with
  | nil => simp [feed]
  | cons c s ih =>
      have hc : isSpecial c = false := h c List.mem_cons_self
      simp only [isSpecial, Bool.or_eq_false_iff, beq_eq_false_iff_ne, ne_eq] at hc
      obtain ⟨⟨⟨hcomma, hquote⟩, hnl⟩, _⟩ := hc
      have hstep : step ⟨rs, fs, cur, .outside⟩ c = ⟨rs, fs, cur ++ [c], .outside⟩ := by
        simp [step, stepOutside, push, hcomma, hquote, hnl]
      rw [feed_cons, hstep, ih (fun x hx => h x (List.mem_cons_of_mem _ hx)), List.append_assoc,
        List.singleton_append]

/-- Inside quotes, two quotes are one quote of the field and all else stands for itself. -/
theorem feed_doubleQuotes {s : List Char} :
    feed ⟨rs, fs, cur, .inside⟩ (doubleQuotes s) = ⟨rs, fs, cur ++ s, .inside⟩ := by
  induction s generalizing cur with
  | nil => simp [doubleQuotes, feed]
  | cons c s ih =>
      rw [doubleQuotes]
      split
      · rename_i hq
        subst hq
        -- the first quote could have closed the field; the second says that it did not
        have hstep : step (step ⟨rs, fs, cur, .inside⟩ '"') '"' = ⟨rs, fs, cur ++ ['"'], .inside⟩ := by
          simp [step, push]
        rw [feed_cons, feed_cons, hstep, ih, List.append_assoc, List.singleton_append]
      · rename_i hq
        have hstep : step ⟨rs, fs, cur, .inside⟩ c = ⟨rs, fs, cur ++ [c], .inside⟩ := by
          simp [step, push, hq]
        rw [feed_cons, hstep, ih, List.append_assoc, List.singleton_append]

/-- **A written field is read as it was**, and leaves the reader outside quotes. -/
theorem feed_field (s : List Char) :
    ∃ m : Mode, m ≠ .inside ∧ feed ⟨rs, fs, [], .outside⟩ (field s) = ⟨rs, fs, s, m⟩ := by
  unfold field
  split
  · refine ⟨.afterQuote, by simp, ?_⟩
    have hopen : step ⟨rs, fs, [], .outside⟩ '"' = ⟨rs, fs, [], .inside⟩ := by
      simp [step, stepOutside]
    have hclose : step ⟨rs, fs, s, .inside⟩ '"' = ⟨rs, fs, s, .afterQuote⟩ := by
      simp [step]
    rw [feed_cons, hopen, feed_append, feed_doubleQuotes, List.nil_append, feed_cons, hclose]
    rfl
  · rename_i h
    refine ⟨.outside, by simp, ?_⟩
    rw [feed_plain, List.nil_append]
    intro c hc
    cases hs : isSpecial c with
    | false => rfl
    | true => exact absurd (List.any_eq_true.mpr ⟨c, hc, hs⟩) h

/-! ## One line -/

theorem step_comma {m : Mode} (h : m ≠ .inside) :
    step ⟨rs, fs, cur, m⟩ ',' = ⟨rs, fs ++ [cur], [], .outside⟩ := by
  cases m with
  | outside => simp [step, stepOutside]
  | inside => exact absurd rfl h
  | afterQuote => simp [step, stepOutside]

theorem step_lineFeed {m : Mode} (h : m ≠ .inside) :
    step ⟨rs, fs, cur, m⟩ '\n' = ⟨rs ++ [fs ++ [cur]], [], [], .outside⟩ := by
  cases m with
  | outside => simp [step, stepOutside]
  | inside => exact absurd rfl h
  | afterQuote => simp [step, stepOutside]

/-- A written line ends the record it was written for. -/
theorem feed_line {l : List (List Char)} (h : l ≠ []) :
    feed ⟨rs, fs, [], .outside⟩ (line l) = ⟨rs ++ [fs ++ l], [], [], .outside⟩ := by
  unfold line
  induction l generalizing fs with
  | nil => exact absurd rfl h
  | cons f l ih =>
      obtain ⟨m, hm, hf⟩ := @feed_field rs fs f
      cases l with
      | nil =>
          rw [joined, feed_append, hf, feed_cons, step_lineFeed hm]
          rfl
      | cons g l =>
          rw [joined, List.append_assoc, feed_append, hf, List.cons_append, feed_cons, step_comma hm,
            ih (by simp), List.append_assoc, List.singleton_append]
          simp

/-! ## All lines -/

theorem feed_lines {ls : List (List (List Char))} (h : ∀ l ∈ ls, l ≠ []) :
    feed ⟨rs, [], [], .outside⟩ (ls.flatMap line) = ⟨rs ++ ls, [], [], .outside⟩ := by
  induction ls generalizing rs with
  | nil => simp [feed]
  | cons l ls ih =>
      rw [List.flatMap_cons, feed_append, feed_line (h l List.mem_cons_self), List.nil_append,
        ih (fun x hx => h x (List.mem_cons_of_mem _ hx)), List.append_assoc, List.singleton_append]

end Reader

/-- A table with a column writes no record without a field. -/
theorem ne_nil_of_mem_records {t : Table} (h : t.columns ≠ []) :
    ∀ l ∈ records t, l ≠ [] := by
  intro l hl
  have hpos : 0 < t.columns.length := List.length_pos_iff.mpr h
  rcases List.mem_cons.mp hl with rfl | hrow
  · simpa using h
  · obtain ⟨row, hmem, rfl⟩ := List.mem_map.mp hrow
    have hlen : row.length = t.columns.length := t.rectangular row hmem
    intro hnil
    have := congrArg List.length hnil
    simp only [List.length_map, List.length_nil] at this
    omega

theorem read_chars {t : Table} (h : t.columns ≠ []) : read (chars t) = ⟨records t, [], [], .outside⟩ :=
  Reader.feed_lines (ne_nil_of_mem_records h)

/-! ## At the top -/

/--
**A table with a column is read back from its CSV.**

The reader finds one record for the column names and then one for each row, in order, and nothing is
left behind the last line feed. So a CSV says of such a table what its columns are called and what its
cells show.
-/
theorem read_write {t : Table} (h : t.columns ≠ []) :
    read (write t).toList
        = ⟨t.columns.map (·.name.toList) :: t.rows.map (·.map (·.toText.toList)), [], [], .outside⟩
      ∧ ∀ u : Table, u.columns ≠ [] → write u = write t →
          u.columns.map (·.name) = t.columns.map (·.name)
            ∧ u.rows.map (·.map (·.toText)) = t.rows.map (·.map (·.toText)) := by
  have hread : ∀ v : Table, v.columns ≠ [] → read (write v).toList = ⟨records v, [], [], .outside⟩ := by
    intro v hv
    rw [write, String.toList_ofList, read_chars hv]
  refine ⟨hread t h, ?_⟩
  intro u hu hw
  have hrec : records u = records t := by
    have := hread u hu
    rw [hw, hread t h] at this
    exact (congrArg Reader.records this).symm
  obtain ⟨hnames, hrows⟩ := List.cons.inj hrec
  have htexts : Function.Injective (List.map String.toList) :=
    List.map_injective_iff.mpr fun _ _ => String.toList_inj.mp
  refine ⟨htexts (by simpa [Function.comp_def] using hnames), List.map_injective_iff.mpr htexts ?_⟩
  simpa [Function.comp_def] using hrows

/-- A column name with a comma above a text of two lines that quotes somebody. -/
def sampleTable : Table where
  columns := [⟨"a,b", .text⟩]
  rows := [[.text "\"x\",\r\n"]]
  rectangular := by
    intro row h
    rw [List.mem_singleton.mp h]
    rfl

theorem read_write_quotes : sampleTable.columns ≠ []
    ∧ read (write sampleTable).toList
      = ⟨[["a,b".toList], ["\"x\",\r\n".toList]], [], [], .outside⟩ :=
  have hcolumn : sampleTable.columns ≠ [] := List.cons_ne_nil _ _
  ⟨hcolumn, (read_write hcolumn).1⟩

end ReportServer.Csv
