import Mathlib.Data.List.DropRight
import ReportServer.Text.Blank

/-!
# What stripping leaves

Stripping a text of what a test picks out takes something off the front and something off the end, all of it picked
out, and what is left has neither at its front nor at its end anything that the test picks out. That is all there is to
it: no other part of the text is like that. So whoever wants to know what a stripped text is only has to show the three
parts, and need not follow how the function finds them.
-/

namespace ReportServer.Text

variable {p : Char → Bool} {s t : List Char}

/-- `Bare p s`: nothing that the test picks out stands at either end. -/
structure Bare (p : Char → Bool) (s : List Char) : Prop where
  front : ∀ c : Char, s.head? = some c → p c = false
  rear : ∀ c : Char, s.getLast? = some c → p c = false

/-- `Stripped p s t`: around `t` stands in `s` only what the test picks out, and `t` is bare of it. -/
structure Stripped (p : Char → Bool) (s t : List Char) : Prop where
  bare : Bare p t
  around : ∃ front rear : List Char, s = front ++ t ++ rear ∧ (∀ c ∈ front, p c = true) ∧ ∀ c ∈ rear, p c = true

/-! ## One end -/

theorem dropWhile_append_cons {a : Char} (h : p a = false) (s t : List Char) :
    (s ++ a :: t).dropWhile p = s.dropWhile p ++ a :: t := by
  have hstop : (a :: t).dropWhile p = a :: t := by simp [h]
  rw [List.dropWhile_append, hstop]
  split
  · next hnone => rw [List.isEmpty_iff.mp hnone, List.nil_append]
  · rfl

theorem dropRight_append_cons {a : Char} (h : p a = false) (s t : List Char) :
    dropRight p (s ++ a :: t) = s ++ a :: dropRight p t := by
  have hreverse : (s ++ a :: t).reverse = t.reverse ++ a :: s.reverse := by simp
  rw [dropRight, hreverse, dropWhile_append_cons h, dropRight]
  simp

theorem dropRight_append_of_forall (h : ∀ c ∈ t, p c = true) : dropRight p (s ++ t) = dropRight p s := by
  have hall : ∀ c ∈ t.reverse, p c = true := fun c hc => h c (List.mem_reverse.mp hc)
  rw [dropRight, List.reverse_append, List.dropWhile_append_of_pos hall, dropRight]

theorem exists_of_dropRight (p : Char → Bool) (s : List Char) :
    ∃ rear : List Char, s = dropRight p s ++ rear ∧ ∀ c ∈ rear, p c = true :=
  ⟨s.rtakeWhile p, List.rdropWhile_append_rtakeWhile.symm, fun _ => List.mem_rtakeWhile_imp⟩

/-! ## Both ends -/

theorem bare_nil : Bare p [] := ⟨by simp, by simp⟩

theorem bare_strip (p : Char → Bool) (s : List Char) : Bare p (strip p s) :=
  ⟨fun _ => of_head?_strip, fun _ => of_getLast?_strip⟩

theorem stripped_strip (p : Char → Bool) (s : List Char) : Stripped p s (strip p s) := by
  obtain ⟨rear, hrear, hright⟩ := exists_of_dropRight p (s.dropWhile p)
  refine ⟨bare_strip p s, s.takeWhile p, rear, ?_, fun _ => List.mem_takeWhile_imp, hright⟩
  rw [List.append_assoc, strip, ← hrear, List.takeWhile_append_dropWhile]

theorem Bare.dropWhile_append (h : Bare p s) (hne : s ≠ []) (t : List Char) : (s ++ t).dropWhile p = s ++ t := by
  cases s with
  | nil => exact absurd rfl hne
  | cons c rest => simp [h.front c rfl]

theorem Bare.dropRight_eq (h : Bare p s) : dropRight p s = s := by
  rcases List.eq_nil_or_concat s with rfl | ⟨front, c, hs⟩
  · rfl
  · rw [List.concat_eq_append] at hs
    subst hs
    exact dropRight_append_singleton_of_neg front (h.rear c (by simp))

/-- Where the front is bare already, only the end is stripped. -/
theorem strip_eq_dropRight (h : ∀ c : Char, s.head? = some c → p c = false) : strip p s = dropRight p s := by
  cases s with
  | nil => rfl
  | cons c rest => simp [strip, h c rfl]

/-- **What stripping leaves** is the one part of the text that is bare and has only what is picked out around it. -/
theorem strip_eq_iff : strip p s = t ↔ Stripped p s t := by
  constructor
  · rintro rfl
    exact stripped_strip p s
  · rintro ⟨hbare, front, rear, rfl, hfront, hrear⟩
    rw [strip, List.append_assoc, List.dropWhile_append_of_pos hfront]
    by_cases hne : t = []
    · -- nothing is left, and then everything is what stands around it
      subst hne
      have hall : rear.dropWhile p = [] := List.dropWhile_eq_nil_iff.mpr hrear
      rw [List.nil_append, hall]
      rfl
    · rw [hbare.dropWhile_append hne, dropRight_append_of_forall hrear, hbare.dropRight_eq]

theorem Bare.strip_eq (h : Bare p s) : strip p s = s :=
  strip_eq_iff.mpr ⟨h, [], [], by simp, by simp, by simp⟩

/-- Nothing is left of a text exactly if the test picks out all of it. -/
theorem strip_eq_nil_iff : strip p s = [] ↔ ∀ c ∈ s, p c = true := by
  rw [strip_eq_iff]
  constructor
  · rintro ⟨-, front, rear, rfl, hfront, hrear⟩ c hc
    rw [List.append_nil, List.mem_append] at hc
    exact hc.elim (hfront c) (hrear c)
  · intro h
    exact ⟨bare_nil, s, [], by simp, h, by simp⟩

/-! ## Characters shown otherwise -/

variable {f : Char → Char}

/-- Whether a text is bare does not depend on how its characters are shown, if the test does not. -/
theorem bare_map_iff (hf : ∀ c : Char, p (f c) = p c) : Bare p (s.map f) ↔ Bare p s := by
  constructor
  · intro h
    exact ⟨fun c hc => hf c ▸ h.front (f c) (by simp [hc]), fun c hc => hf c ▸ h.rear (f c) (by simp [hc])⟩
  · intro h
    constructor
    · intro c hc
      rw [List.head?_map, Option.map_eq_some_iff] at hc
      obtain ⟨x, hx, rfl⟩ := hc
      rw [hf, h.front x hx]
    · intro c hc
      rw [List.getLast?_map, Option.map_eq_some_iff] at hc
      obtain ⟨x, hx, rfl⟩ := hc
      rw [hf, h.rear x hx]

theorem strip_map (hf : ∀ c : Char, p (f c) = p c) (s : List Char) : strip p (s.map f) = (strip p s).map f := by
  obtain ⟨hbare, front, rear, hs, hfront, hrear⟩ := stripped_strip p s
  have hshown : ∀ {around : List Char}, (∀ c ∈ around, p c = true) → ∀ c ∈ around.map f, p c = true := by
    intro around h c hc
    obtain ⟨x, hx, rfl⟩ := List.mem_map.mp hc
    rw [hf, h x hx]
  refine strip_eq_iff.mpr ⟨(bare_map_iff hf).mpr hbare, front.map f, rear.map f, ?_, hshown hfront, hshown hrear⟩
  rw [← List.map_append, ← List.map_append, ← hs]

end ReportServer.Text
