import Mathlib.Data.List.TakeWhile
import ReportServer.Json.Outline

/-!
# The parts of documents

The grammar of what a JSON document is put together from, said without a reader: gaps, numbers and strings as they are
written. Whatever is read of them stands at the front of the text, and this needs nothing to be known of the rest. The
other way round a part is read as a whole only if the rest does not continue it. A string ends with its quote, but a
number goes on as far as it can.
-/

namespace ReportServer.Json

variable {α : Type} {s w rest g : List Char}

/-- What was taken, without the bound that comes with it. -/
def taken {s : List Char} (r : Parsed α s) : Option (α × List Char) := r.map Subtype.val

theorem taken_widen {s t : List Char} (h : s.length ≤ t.length) (r : Parsed α s) : taken (r.widen h) = taken r := by
  cases r <;> rfl

/-! ## Gaps -/

/-- Blanks, tabs and line ends. -/
def Gap (g : List Char) : Prop := ∀ c ∈ g, isGap c = true

theorem skipGap_append (hg : Gap g) (s : List Char) : skipGap (g ++ s) = skipGap s := by
  induction g with
  | nil => rfl
  | cons c g ih =>
    obtain ⟨hc, hg⟩ := List.forall_mem_cons.mp hg
    rw [List.cons_append, skipGap, List.dropWhile_cons_of_pos hc]
    exact ih hg

theorem skipGap_cons {c : Char} (hc : isGap c = false) (s : List Char) : skipGap (c :: s) = c :: s := by
  rw [skipGap, List.dropWhile_cons_of_neg (by simp [hc])]

/-- A text is a gap and what is left of the text without it. -/
theorem exists_gap (s : List Char) : ∃ g, s = g ++ skipGap s ∧ Gap g :=
  ⟨s.takeWhile isGap, List.takeWhile_append_dropWhile.symm, fun _ hc => List.mem_takeWhile_imp hc⟩

theorem exists_gap_of_skipGap {t : List Char} (h : skipGap s = t) : ∃ g, s = g ++ t ∧ Gap g := h ▸ exists_gap s

theorem expect_eq_some_iff {word : List Char} : expect word s = some rest ↔ s = word ++ rest := by
  unfold expect
  constructor
  · intro h
    split at h
    · next hprefix =>
      obtain ⟨t, rfl⟩ := List.isPrefixOf_iff_prefix.mp hprefix
      rw [← Option.some.inj h, List.drop_left]
    · cases h
  · rintro rfl
    rw [if_pos (List.isPrefixOf_iff_prefix.mpr (List.prefix_append _ _)), List.drop_left]

/-! ## Numbers -/

/-- Digits, at least one. -/
structure Digits (ds : List Char) : Prop where
  nonempty : ds ≠ []
  digits : ∀ c ∈ ds, c.isDigit = true

/-- Digits that do not begin with a zero, or a zero alone. -/
structure Whole (ds : List Char) : Prop extends Digits ds where
  noZero : ds.head? = some '0' → ds.length ≤ 1

/-- A point and digits, or nothing. -/
inductive Fraction : List Char → Prop
  | none : Fraction []
  | some {ds : List Char} : Digits ds → Fraction ('.' :: ds)

/-- The mark of an exponent and digits, which can have a sign, or nothing. -/
inductive Exponent : List Char → Prop
  | none : Exponent []
  | some {mark : Char} {sign ds : List Char} : mark = 'e' ∨ mark = 'E' → sign = [] ∨ sign = ['+'] ∨ sign = ['-'] →
    Digits ds → Exponent (mark :: (sign ++ ds))

/-- A number. -/
inductive Number : List Char → Prop
  | mk {sign whole fraction exponent : List Char} : sign = [] ∨ sign = ['-'] → Whole whole → Fraction fraction →
    Exponent exponent → Number (sign ++ (whole ++ (fraction ++ exponent)))

/-- Texts that do not continue a number. -/
def Ends (s : List Char) : Prop := ∀ c ∈ s.head?, c.isDigit = false ∧ c ≠ '.' ∧ c ≠ 'e' ∧ c ≠ 'E'

theorem ends_nil : Ends [] := by simp [Ends]

theorem ends_cons {c : Char} : Ends (c :: s) ↔ c.isDigit = false ∧ c ≠ '.' ∧ c ≠ 'e' ∧ c ≠ 'E' := by simp [Ends]

/-- A gap continues no number. -/
theorem Gap.ends_append (hg : Gap g) (hs : Ends s) : Ends (g ++ s) := by
  cases g with
  | nil => exact hs
  | cons c g =>
    have hc : isGap c = true := hg c List.mem_cons_self
    simp only [isGap, Bool.or_eq_true, beq_iff_eq] at hc
    rw [List.cons_append, ends_cons]
    rcases hc with ((rfl | rfl) | rfl) | rfl <;> decide

theorem digits_sound {ds : List Char} (h : digits s = (ds, rest)) : s = ds ++ rest ∧ ∀ c ∈ ds, c.isDigit = true := by
  obtain ⟨rfl, rfl⟩ := Prod.mk.inj h
  exact ⟨List.takeWhile_append_dropWhile.symm, fun _ hc => List.mem_takeWhile_imp hc⟩

theorem digits_complete {ds : List Char} (hds : ∀ c ∈ ds, c.isDigit = true) (hrest : ∀ c ∈ rest.head?, c.isDigit = false) :
    digits (ds ++ rest) = (ds, rest) := by
  have htake : rest.takeWhile Char.isDigit = [] ∧ rest.dropWhile Char.isDigit = rest := by
    cases rest with
    | nil => exact ⟨rfl, rfl⟩
    | cons c rest => simp [hrest c rfl]
  rw [digits, List.takeWhile_append_of_pos hds, List.dropWhile_append_of_pos hds, htake.1, htake.2, List.append_nil]

theorem wholePart_sound {ds : List Char} (h : wholePart s = some (ds, rest)) : s = ds ++ rest ∧ Whole ds := by
  unfold wholePart at h
  split at h
  next ds' rest' hdigits =>
  split at h
  · cases h
  · next hbad =>
    obtain ⟨rfl, rfl⟩ := Prod.mk.inj (Option.some.inj h)
    obtain ⟨hs, hds⟩ := digits_sound hdigits
    simp only [not_or, not_and, List.isEmpty_iff, Nat.not_lt] at hbad
    exact ⟨hs, ⟨hbad.1, hds⟩, hbad.2⟩

theorem wholePart_complete {ds : List Char} (h : Whole ds) (hrest : ∀ c ∈ rest.head?, c.isDigit = false) :
    wholePart (ds ++ rest) = some (ds, rest) := by
  have hgood : ¬(ds.isEmpty = true ∨ ds.head? = some '0' ∧ 1 < ds.length) := by
    rintro (hempty | ⟨hzero, hlong⟩)
    · exact h.nonempty (List.isEmpty_iff.mp hempty)
    · exact absurd (h.noZero hzero) (by omega)
  simp only [wholePart, digits_complete h.digits hrest, if_neg hgood]

theorem fractionPart_sound {f : Option (List Char)} (h : fractionPart s = some (f, rest)) :
    ∃ w, s = w ++ rest ∧ Fraction w := by
  unfold fractionPart at h
  split at h
  · next after =>
    split at h
    next ds rest' hdigits =>
    split at h
    · cases h
    · next hne =>
      obtain ⟨-, rfl⟩ := Prod.mk.inj (Option.some.inj h)
      obtain ⟨rfl, hds⟩ := digits_sound hdigits
      exact ⟨'.' :: ds, rfl, .some ⟨by simpa using hne, hds⟩⟩
  · obtain ⟨-, rfl⟩ := Prod.mk.inj (Option.some.inj h)
    exact ⟨[], rfl, .none⟩

theorem fractionPart_complete (h : Fraction w) (hrest : ∀ c ∈ rest.head?, c.isDigit = false ∧ c ≠ '.') :
    ∃ f, fractionPart (w ++ rest) = some (f, rest) := by
  cases h with
  | none =>
    refine ⟨none, ?_⟩
    rw [List.nil_append]
    unfold fractionPart
    split
    · next after => exact absurd rfl (hrest '.' rfl).2
    · rfl
  | @some ds hds =>
    refine ⟨some ds, ?_⟩
    have hne : ¬ds.isEmpty = true := by simpa using hds.nonempty
    simp only [List.cons_append, fractionPart, digits_complete hds.digits fun c hc => (hrest c hc).1, if_neg hne]

theorem minusPart_sound (s : List Char) : ∃ sign, s = sign ++ (minusPart s).2 ∧ (sign = [] ∨ sign = ['-']) := by
  unfold minusPart
  split
  · exact ⟨['-'], rfl, .inr rfl⟩
  · exact ⟨[], rfl, .inl rfl⟩

theorem minusPart_complete {sign : List Char} (h : sign = [] ∨ sign = ['-']) (hs : ∀ c ∈ s.head?, c.isDigit = true) :
    (minusPart (sign ++ s)).2 = s := by
  rcases h with rfl | rfl
  · rw [List.nil_append]
    unfold minusPart
    split
    · exact absurd (hs '-' rfl) (by decide)
    · rfl
  · rfl

theorem signPart_sound (s : List Char) :
    ∃ sign, s = sign ++ (signPart s).2 ∧ (sign = [] ∨ sign = ['+'] ∨ sign = ['-']) := by
  unfold signPart
  split
  · exact ⟨['+'], rfl, .inr (.inl rfl)⟩
  · obtain ⟨sign, hs, hsign⟩ := minusPart_sound s
    exact ⟨sign, hs, hsign.imp_right .inr⟩

theorem signPart_complete {sign : List Char} (h : sign = [] ∨ sign = ['+'] ∨ sign = ['-'])
    (hs : ∀ c ∈ s.head?, c.isDigit = true) : (signPart (sign ++ s)).2 = s := by
  rcases h with rfl | rfl | rfl
  · rw [List.nil_append]
    unfold signPart
    split
    · exact absurd (hs '+' rfl) (by decide)
    · exact minusPart_complete (.inl rfl) hs
  · rfl
  · rfl

/-- Digits begin with a digit. -/
theorem Digits.head? {ds : List Char} (h : Digits ds) (rest : List Char) : ∀ c ∈ (ds ++ rest).head?, c.isDigit = true := by
  obtain ⟨c, ds, rfl⟩ := List.exists_cons_of_ne_nil h.nonempty
  intro d hd
  obtain rfl : c = d := Option.some.inj hd
  exact h.digits c List.mem_cons_self

theorem exponentPart_sound {e : Int} (h : exponentPart s = some (e, rest)) :
    ∃ sign ds, s = sign ++ (ds ++ rest) ∧ (sign = [] ∨ sign = ['+'] ∨ sign = ['-']) ∧ Digits ds := by
  obtain ⟨sign, hs, hsign⟩ := signPart_sound s
  simp only [exponentPart] at h
  split at h
  · cases h
  · next ds rest' hne hdigits =>
    obtain ⟨-, rfl⟩ := Prod.mk.inj (Option.some.inj h)
    obtain ⟨hds, hall⟩ := digits_sound hdigits
    refine ⟨sign, ds, hds ▸ hs, hsign, ?_, hall⟩
    rintro rfl
    exact hne rfl

theorem exponentPart_complete {sign ds : List Char} (hsign : sign = [] ∨ sign = ['+'] ∨ sign = ['-']) (hds : Digits ds)
    (hrest : ∀ c ∈ rest.head?, c.isDigit = false) : ∃ e, exponentPart (sign ++ (ds ++ rest)) = some (e, rest) := by
  simp only [exponentPart, signPart_complete hsign (hds.head? rest), digits_complete hds.digits hrest]
  split
  · next hnil => exact absurd (Prod.mk.inj hnil).1 hds.nonempty
  · next hsome => exact ⟨_, congrArg some (Prod.ext rfl (Prod.mk.inj hsome).2.symm)⟩

theorem exponentIfAny_sound {e : Option Int} (h : exponentIfAny s = some (e, rest)) :
    ∃ w, s = w ++ rest ∧ Exponent w := by
  unfold exponentIfAny at h
  split at h
  · next c after =>
    split at h
    · next hmark =>
      obtain ⟨⟨e, rest'⟩, hpart, he⟩ := Option.map_eq_some_iff.mp h
      obtain ⟨-, rfl⟩ := Prod.mk.inj he
      obtain ⟨sign, ds, rfl, hsign, hds⟩ := exponentPart_sound hpart
      exact ⟨c :: (sign ++ ds), by simp, .some hmark hsign hds⟩
    · obtain ⟨-, rfl⟩ := Prod.mk.inj (Option.some.inj h)
      exact ⟨[], rfl, .none⟩
  · obtain ⟨-, rfl⟩ := Prod.mk.inj (Option.some.inj h)
    exact ⟨[], rfl, .none⟩

theorem exponentIfAny_complete (h : Exponent w) (hrest : Ends rest) : ∃ e, exponentIfAny (w ++ rest) = some (e, rest) := by
  cases h with
  | none =>
    refine ⟨none, ?_⟩
    cases rest with
    | nil => rfl
    | cons c rest =>
      obtain ⟨-, -, he, hE⟩ := ends_cons.mp hrest
      simp [exponentIfAny, he, hE]
  | @some mark sign ds hmark hsign hds =>
    obtain ⟨e, he⟩ := exponentPart_complete hsign hds fun c hc => (hrest c hc).1
    refine ⟨some e, ?_⟩
    rw [List.cons_append, exponentIfAny, if_pos hmark, List.append_assoc, he]
    rfl

/-- What follows the digits after the point is no digit and no point, -/
theorem Exponent.head? (h : Exponent w) (hrest : Ends rest) : ∀ c ∈ (w ++ rest).head?, c.isDigit = false ∧ c ≠ '.' := by
  intro c hc
  cases h with
  | none =>
    obtain ⟨hdigit, hpoint, -⟩ := hrest c hc
    exact ⟨hdigit, hpoint⟩
  | @some mark _ _ hmark =>
    obtain rfl : mark = c := Option.some.inj hc
    rcases hmark with rfl | rfl <;> decide

/-- and what follows the digits before it is no digit. -/
theorem Fraction.head? (h : Fraction w) (hrest : ∀ c ∈ rest.head?, c.isDigit = false ∧ c ≠ '.') :
    ∀ c ∈ (w ++ rest).head?, c.isDigit = false := by
  intro c hc
  cases h with
  | none => exact (hrest c hc).1
  | some =>
    obtain rfl : '.' = c := Option.some.inj hc
    rfl

theorem numeral_sound {n : Numeral} (h : numeral s = some (n, rest)) : ∃ w, s = w ++ rest ∧ Number w := by
  simp only [numeral, Option.bind_eq_bind, Option.bind_eq_some_iff, Prod.exists, Option.pure_def, Option.some.injEq,
    Prod.mk.injEq] at h
  obtain ⟨whole, _, hwhole, f, _, hfraction, e, _, hexponent, -, rfl⟩ := h
  obtain ⟨sign, hs, hsign⟩ := minusPart_sound s
  obtain ⟨hbehind, hw⟩ := wholePart_sound hwhole
  obtain ⟨fraction, rfl, hf⟩ := fractionPart_sound hfraction
  obtain ⟨exponent, rfl, he⟩ := exponentIfAny_sound hexponent
  exact ⟨_, by rw [hs, hbehind]; simp, .mk hsign hw hf he⟩

theorem numeral_complete (h : Number w) (hrest : Ends rest) : ∃ n, numeral (w ++ rest) = some (n, rest) := by
  cases h with
  | @mk sign whole fraction exponent hsign hwhole hfraction hexponent =>
    obtain ⟨e, he⟩ := exponentIfAny_complete hexponent hrest
    obtain ⟨f, hf⟩ := fractionPart_complete hfraction (hexponent.head? hrest)
    have hw := wholePart_complete hwhole (hfraction.head? (hexponent.head? hrest))
    have hm := minusPart_complete hsign (hwhole.head? (fraction ++ (exponent ++ rest)))
    refine ⟨⟨(minusPart (sign ++ (whole ++ (fraction ++ (exponent ++ rest))))).1, whole, f, e⟩, ?_⟩
    simp only [numeral, List.append_assoc, hm, hw, hf, he, Option.bind_eq_bind, Option.bind_some, Option.pure_def]

/-! ## Strings -/

/-- What may stand between the quotes of a string. -/
inductive Inside : List Char → Prop
  | nil : Inside []
  | plain {c : Char} {w : List Char} : c ≠ '"' → c ≠ '\\' → 0x20 ≤ c.toNat → Inside w → Inside (c :: w)
  | short {e : Char} {w : List Char} : e ∈ shortEscapes → Inside w → Inside ('\\' :: e :: w)
  | unit {a b c d : Char} {w : List Char} : isHexDigit a = true → isHexDigit b = true → isHexDigit c = true →
    isHexDigit d = true → Inside w → Inside ('\\' :: 'u' :: a :: b :: c :: d :: w)

theorem written_sound (h : written s = some (w, rest)) : s = w ++ '"' :: rest ∧ Inside w := by
  fun_induction written s generalizing w with
  | case1 rest' =>
    obtain ⟨rfl, rfl⟩ := Prod.mk.inj (Option.some.inj h)
    exact ⟨rfl, .nil⟩
  | case2 a b c d rest' hhex ih =>
    obtain ⟨⟨w, rest''⟩, hread, hw⟩ := Option.map_eq_some_iff.mp h
    obtain ⟨rfl, rfl⟩ := Prod.mk.inj hw
    obtain ⟨rfl, hinside⟩ := ih hread
    exact ⟨rfl, .unit hhex.1 hhex.2.1 hhex.2.2.1 hhex.2.2.2 hinside⟩
  | case3 => cases h
  | case4 e rest' _ hshort ih =>
    obtain ⟨⟨w, rest''⟩, hread, hw⟩ := Option.map_eq_some_iff.mp h
    obtain ⟨rfl, rfl⟩ := Prod.mk.inj hw
    obtain ⟨rfl, hinside⟩ := ih hread
    exact ⟨rfl, .short hshort hinside⟩
  | case5 => cases h
  | case6 c rest' hquote _ _ hplain ih =>
    obtain ⟨⟨w, rest''⟩, hread, hw⟩ := Option.map_eq_some_iff.mp h
    obtain ⟨rfl, rfl⟩ := Prod.mk.inj hw
    obtain ⟨rfl, hinside⟩ := ih hread
    exact ⟨rfl, .plain hquote hplain.1 hplain.2 hinside⟩
  | case7 => cases h
  | case8 => cases h

theorem written_complete (h : Inside w) (rest : List Char) : written (w ++ '"' :: rest) = some (w, rest) := by
  induction h with
  | nil => rfl
  | @plain c w hquote hslash hcontrol _ ih =>
    rw [List.cons_append, written]
    · rw [if_pos ⟨hslash, hcontrol⟩, ih]
      rfl
    · intro h
      exact hquote h
    · intro _ _ _ _ _ h _
      exact hslash h
    · intro _ _ h _
      exact hslash h
  | @short e w he _ ih =>
    have hu : e ≠ 'u' := by
      rintro rfl
      exact absurd he (by decide)
    rw [List.cons_append, List.cons_append, written]
    · rw [if_pos he, ih]
      rfl
    · intro _ _ _ _ _ h _
      exact hu h
  | @unit a b c d w ha hb hc hd _ ih =>
    simp only [List.cons_append, written, ha, hb, hc, hd, and_self, if_true, ih]
    rfl

end ReportServer.Json
