import ReportServer.Text.Lowercase

/-!
# What has a lower case in ASCII

Lower case is a matter of all of Unicode, and a word of ASCII letters might be the lower case of something that is not
ASCII at all. It is so for one letter only: the sign of the kelvin becomes a `k`. All other characters beyond ASCII
stay beyond it, or at least one character that stands for them does, as for the dotted capital I. So for a word without
a `k` it makes no difference whether the cases of all letters are disregarded or only those of ASCII.
-/

namespace ReportServer.Text

/-- `IsPlainWord s`: the word `s` consists of small letters of ASCII other than `k`. -/
def IsPlainWord (s : List Char) : Prop := ∀ c ∈ s, c.isLower = true ∧ c ≠ 'k'

variable {c x : Char}

theorem isLower_iff : c.isLower = true ↔ 97 ≤ c.toNat ∧ c.toNat ≤ 122 := by
  show (decide ('a'.val ≤ c.val) && decide (c.val ≤ 'z'.val)) = true ↔ _
  rw [Bool.and_eq_true, decide_eq_true_iff, decide_eq_true_iff, UInt32.le_iff_toNat_le, UInt32.le_iff_toNat_le]
  rfl

theorem toNat_ofNat_or (n : Nat) : (Char.ofNat n).toNat = n ∨ (Char.ofNat n).toNat = 0 := by
  by_cases h : n.isValidChar
  · rw [Char.ofNat, dif_pos h]
    exact .inl rfl
  · rw [Char.ofNat, dif_neg h]
    exact .inr rfl

theorem of_all_ascii {p : Char → Bool} (h : (List.range 0x80).all (fun n => p (Char.ofNat n)) = true)
    (hc : c.toNat < 0x80) : p c = true := by
  have hp := List.all_eq_true.mp h c.toNat (List.mem_range.mpr hc)
  rwa [Char.ofNat_toNat] at hp

theorem toLower_of_le (h : 0x80 ≤ c.toNat) : c.toLower = c := by
  unfold Char.toLower
  split
  · next hupper =>
    have hle := UInt32.le_iff_toNat_le.mp hupper.2
    rw [Char.toNat_val] at hle
    exact absurd (Nat.le_trans h hle) (by decide)
  · rfl

/-- What becomes a small letter of ASCII is a letter of ASCII. -/
theorem toNat_of_isLower_toLower (h : c.toLower.isLower = true) : 65 ≤ c.toNat ∧ c.toNat ≤ 122 := by
  by_cases hc : c.toNat < 0x80
  · have hall : (List.range 0x80).all (fun n => !(Char.ofNat n).toLower.isLower
        || (65 ≤ (Char.ofNat n).toNat && (Char.ofNat n).toNat ≤ 122)) = true := by decide +kernel
    have hrange := of_all_ascii (p := fun c => !c.toLower.isLower || (65 ≤ c.toNat && c.toNat ≤ 122)) hall hc
    simpa [h] using hrange
  · rw [toLower_of_le (by omega)] at h
    have := isLower_iff.mp h
    omega

/-! ## One character -/

theorem lowerChar_of_lt (h : c.toNat < 0x80) : lowerChar c = c.toLower := by
  have hall : (List.range 0x80).all (fun n => lowerChar (Char.ofNat n) == (Char.ofNat n).toLower) = true := by
    decide +kernel
  exact beq_iff_eq.mp (of_all_ascii (p := fun c => lowerChar c == c.toLower) hall h)

/-- A run of the table lies in ASCII, or its lower case does not, or it is the sign of the kelvin. -/
theorem caseRuns_ascii {r : CaseRun} (h : r ∈ caseRunsLow ++ caseRunsHigh) :
    r.last < 0x80 ∨ 0x80 ≤ (r.first : Int) + r.shift ∨ r.first = 0x212A ∧ r.last = 0x212A ∧ r.shift = -8383 := by
  have hall : (caseRunsLow ++ caseRunsHigh).all (fun r => decide (r.last < 0x80)
      || decide (0x80 ≤ (r.first : Int) + r.shift)
      || (r.first == 0x212A && (r.last == 0x212A && r.shift == -8383))) = true := by
    decide +kernel
  simpa [or_assoc] using List.all_eq_true.mp hall r h

/-- Whatever is made small and was not small is in a run of the table. -/
theorem lowerChar_cases (c : Char) : lowerChar c = c ∨ ∃ r ∈ caseRunsLow ++ caseRunsHigh,
    r.first ≤ c.toNat ∧ c.toNat ≤ r.last ∧ lowerChar c = Char.ofNat ((c.toNat : Int) + r.shift).toNat := by
  unfold lowerChar
  dsimp only
  split
  · next r hr =>
    refine .inr ⟨r, ?_, ?_⟩
    · have hmem := List.mem_of_find?_eq_some hr
      split at hmem
      · exact List.mem_append_left _ hmem
      · exact List.mem_append_right _ hmem
    · have hholds := List.find?_some hr
      simp only [CaseRun.holds, Bool.and_eq_true, decide_eq_true_eq] at hholds
      exact ⟨hholds.1.1, hholds.1.2, rfl⟩
  · exact .inl rfl

/-- Beyond ASCII nothing has a small letter of ASCII for its lower case, but for the sign of the kelvin. -/
theorem lowerChar_ne_of_le (h : 0x80 ≤ c.toNat) (hx : x.isLower = true) (hk : x ≠ 'k') : lowerChar c ≠ x := by
  have hrange := isLower_iff.mp hx
  intro he
  rcases lowerChar_cases c with hsame | ⟨r, hr, hfirst, hlast, hshown⟩
  · rw [hsame] at he
    subst he
    omega
  · rw [hshown] at he
    rcases caseRuns_ascii hr with hascii | hbeyond | ⟨hkelvin, hkelvin', hshift⟩
    · omega
    · have hnat := congrArg Char.toNat he
      rcases toNat_ofNat_or ((c.toNat : Int) + r.shift).toNat with hsame | hnone <;> omega
    · have hnumber : ((c.toNat : Int) + r.shift).toNat = 0x6B := by omega
      rw [hnumber] at he
      exact hk he.symm

/-- For a small letter other than `k`, the cases of ASCII are all that matters. -/
theorem lowerChar_eq_iff (hx : x.isLower = true) (hk : x ≠ 'k') : lowerChar c = x ↔ c.toLower = x := by
  by_cases h : c.toNat < 0x80
  · rw [lowerChar_of_lt h]
  · have hbeyond : 0x80 ≤ c.toNat := by omega
    have hlower := isLower_iff.mp hx
    refine iff_of_false (lowerChar_ne_of_le hbeyond hx hk) ?_
    rw [toLower_of_le hbeyond]
    rintro rfl
    omega

/-! ## Words -/

/-- A character stands for its lower case, or for something that is in part beyond ASCII, as it is itself. -/
theorem lowerChars_cons (before : List Char) (c : Char) (rest : List Char) :
    lowerChars before (c :: rest) = lowerChar c :: lowerChars (c :: before) rest
      ∨ 0x80 ≤ c.toNat ∧ ∃ x ∈ lowerChars before (c :: rest), 0x80 ≤ x.toNat := by
  rw [lowerChars]
  dsimp only
  split
  · next hdotted => exact .inr ⟨by omega, '\u0307', by simp, by decide⟩
  · split
    · next hsigma =>
      refine .inr ⟨by omega, ?_⟩
      split
      · exact ⟨'ς', by simp, by decide⟩
      · exact ⟨'σ', by simp, by decide⟩
    · exact .inl rfl

theorem lowerChars_eq_iff {before s t : List Char} (ht : IsPlainWord t) :
    lowerChars before s = t ↔ s.map Char.toLower = t := by
  induction s generalizing before t with
  | nil => rfl
  | cons c rest ih =>
      rcases lowerChars_cons before c rest with hown | ⟨hbeyond, y, hy, hybeyond⟩
      · rw [hown]
        cases t with
        | nil => exact iff_of_false (by simp) (by simp)
        | cons x t =>
            have hx := ht x List.mem_cons_self
            rw [List.map_cons, List.cons.injEq, List.cons.injEq, lowerChar_eq_iff hx.1 hx.2,
              ih fun y hy => ht y (List.mem_cons_of_mem x hy)]
      · -- either way there would be something beyond ASCII in the word
        have hascii : ∀ x ∈ t, x.toNat < 0x80 := fun x hx => by
          have := isLower_iff.mp (ht x hx).1
          omega
        refine iff_of_false ?_ ?_
        · rintro rfl
          have := hascii y hy
          omega
        · rintro rfl
          have := hascii c.toLower List.mem_cons_self
          rw [toLower_of_le hbeyond] at this
          omega

/-- **A plain word is the lower case of its spellings in ASCII**, and of nothing else. -/
theorem lowercase_eq_iff {s w : String} (hw : IsPlainWord w.toList) :
    lowercase s = w ↔ s.toList.map Char.toLower = w.toList := by
  rw [← String.toList_inj, lowercase, String.toList_ofList, lowerChars_eq_iff hw]

/-- A word with a `k` has one spelling more. -/
example : lowercase "\u212Aey" = "key" := by decide +kernel

end ReportServer.Text
