import ReportServer.Proofs.Workbook.Placement

/-!
# Which texts are read back from a workbook

A text is handed to the workbook as it is, and the workbook has a syntax of its own inside a text. Most
texts come back as they were, because what looks like an escape is marked when it is written. Two kinds
do not. A text that looks like rich-text runs is stored as such runs. And the search for escapes does not
see those that share an underscore, so that what it leaves of the second one, or a control character
written right behind the front of one, makes an escape that nobody meant: such texts collide.

These are all: a text comes back exactly if it is of neither kind. Writing goes piece by piece, and
`Written` has one constructor for each kind of piece; reading is followed along it. What makes the
difference is the underscore that ends a piece or stands for itself, because a reader may take it for
the beginning of an escape together with what is written behind it.
-/

namespace ReportServer.Workbook

/-! ## Escapes at the front -/

theorem isHexDigit_ne_underscore {c : Char} (h : isHexDigit c = true) : c ≠ '_' := by
  rintro rfl
  exact absurd h (by decide)

theorem toNat_lt_of_isEscapedControl {c : Char} (h : isEscapedControl c = true) : c.toNat < 0x20 := by
  simp only [isEscapedControl, Bool.and_eq_true, decide_eq_true_eq] at h
  exact h.1.1

theorem isEscapedControl_ne_underscore {c : Char} (h : isEscapedControl c = true) : c ≠ '_' := by
  rintro rfl
  exact absurd h (by decide)

theorem not_control_of_hexDigit {c : Char} (h : isHexDigit c = true) : isEscapedControl c = false := by
  cases hc : isEscapedControl c with
  | false => rfl
  | true =>
      have hall : ∀ n < 0x20, isHexDigit (Char.ofNat n) = false := by decide
      have := hall c.toNat (toNat_lt_of_isEscapedControl hc)
      rw [Char.ofNat_toNat, h] at this
      exact absurd this (by simp)

/-- Four hexadecimal digits. -/
structure Digits (a b c d : Char) : Prop where
  first : isHexDigit a = true
  second : isHexDigit b = true
  third : isHexDigit c = true
  fourth : isHexDigit d = true

/-- The character that four digits stand for. -/
def digitsChar (a b c d : Char) : Char :=
  Char.ofNat (((hexDigitValue a * 16 + hexDigitValue b) * 16 + hexDigitValue c) * 16 + hexDigitValue d)

variable {a b c d : Char} {s t rest : List Char}

theorem splitEscape_eq_some_iff :
    splitEscape s = some ((a, b, c, d), rest) ↔
      Digits a b c d ∧ s = '_' :: 'x' :: a :: b :: c :: d :: '_' :: rest := by
  constructor
  · intro h
    unfold splitEscape at h
    split at h
    · rename_i a' b' c' d' rest'
      split at h
      · rename_i hd
        simp only [Bool.and_eq_true] at hd
        obtain ⟨⟨⟨ha, hb⟩, hc⟩, hd⟩ := hd
        simp only [Option.some.injEq, Prod.mk.injEq] at h
        obtain ⟨⟨rfl, rfl, rfl, rfl⟩, rfl⟩ := h
        exact ⟨⟨ha, hb, hc, hd⟩, rfl⟩
      · exact absurd h (by simp)
    · exact absurd h (by simp)
  · rintro ⟨h, rfl⟩
    simp [splitEscape, h.first, h.second, h.third, h.fourth]

theorem splitEscape_digits (h : Digits a b c d) (rest : List Char) :
    splitEscape ('_' :: 'x' :: a :: b :: c :: d :: '_' :: rest) = some ((a, b, c, d), rest) :=
  splitEscape_eq_some_iff.mpr ⟨h, rfl⟩

theorem splitEscape_eq_none_of_ne {x : Char} (h : x ≠ '_') (rest : List Char) :
    splitEscape (x :: rest) = none := by
  cases hx : splitEscape (x :: rest) with
  | none => rfl
  | some p =>
      obtain ⟨⟨a, b, c, d⟩, rest'⟩ := p
      exact absurd (List.cons.inj (splitEscape_eq_some_iff.mp hx).2).1 h

/-! ## Reading -/

theorem unescape_nil : unescape [] = [] := by
  rw [unescape]
  rfl

theorem unescape_digits (h : Digits a b c d) (rest : List Char) :
    unescape ('_' :: 'x' :: a :: b :: c :: d :: '_' :: rest) = digitsChar a b c d :: unescape rest := by
  rw [unescape]
  split
  · rename_i hs
    rw [splitEscape_digits h] at hs
    simp only [Option.some.injEq, Prod.mk.injEq] at hs
    obtain ⟨⟨rfl, rfl, rfl, rfl⟩, rfl⟩ := hs
    rfl
  · rename_i hs
    rw [splitEscape_digits h] at hs
    exact absurd hs (by simp)

theorem unescape_cons {x : Char} (h : splitEscape (x :: rest) = none) :
    unescape (x :: rest) = x :: unescape rest := by
  rw [unescape]
  split
  · rename_i hs
    rw [h] at hs
    exact absurd hs (by simp)
  · rfl

theorem unescape_cons_of_ne {x : Char} (h : x ≠ '_') (rest : List Char) :
    unescape (x :: rest) = x :: unescape rest :=
  unescape_cons (splitEscape_eq_none_of_ne h rest)

/-- An escape that has lost its first underscore is read as it stands, up to its last one. -/
theorem unescape_tail (h : Digits a b c d) (rest : List Char) :
    unescape ('x' :: a :: b :: c :: d :: '_' :: rest)
      = 'x' :: a :: b :: c :: d :: unescape ('_' :: rest) := by
  rw [unescape_cons_of_ne (by decide), unescape_cons_of_ne (isHexDigit_ne_underscore h.first),
    unescape_cons_of_ne (isHexDigit_ne_underscore h.second),
    unescape_cons_of_ne (isHexDigit_ne_underscore h.third),
    unescape_cons_of_ne (isHexDigit_ne_underscore h.fourth)]

/-! ## Writing -/

/-- `Written s t`: piece by piece, `s` is written as `t`. -/
inductive Written : List Char → List Char → Prop where
  | nil : Written [] []
  /-- An escape that the text holds literally is marked. -/
  | literal {a b c d : Char} {s t : List Char} : Digits a b c d → Written s t →
      Written ('_' :: 'x' :: a :: b :: c :: d :: '_' :: s)
        (underscoreEscape ++ '_' :: 'x' :: a :: b :: c :: d :: '_' :: t)
  /-- A control character is written as an escape. -/
  | control {x : Char} {s t : List Char} : isEscapedControl x = true → Written s t →
      Written (x :: s) (controlEscape x ++ t)
  /-- All else stands for itself. -/
  | plain {x : Char} {s t : List Char} : splitEscape (x :: s) = none → isEscapedControl x = false →
      Written s t → Written (x :: s) (x :: t)

theorem written_escapeText (s : List Char) : Written s (escapeText s) := by
  induction hn : s.length using Nat.strongRecOn generalizing s with
  | ind n ih =>
    subst hn
    rw [escapeText]
    split
    · rename_i a b c d rest hs
      obtain ⟨hd, rfl⟩ := splitEscape_eq_some_iff.mp hs
      have hrest := ih rest.length (by simp only [List.length_cons]; omega) rest rfl
      simpa using Written.literal hd hrest
    · rename_i hs
      split
      · exact .nil
      · rename_i x rest _
        have hrest := ih rest.length (by simp) rest rfl
        cases hx : isEscapedControl x with
        | true => exact .control hx hrest
        | false => exact .plain hs hx hrest

/-- What is written as it stands can be told from what is written. -/
theorem Written.eq_cons {x : Char} (h : Written s (x :: t)) (hx : x ≠ '_') :
    ∃ s' : List Char, s = x :: s' ∧ Written s' t := by
  cases h with
  | literal | control => exact absurd rfl hx
  | plain _ _ h => exact ⟨_, rfl, h⟩

theorem Written.of_cons {x : Char} (h : Written (x :: s) t) (hx : x ≠ '_')
    (hcontrol : isEscapedControl x = false) : ∃ t' : List Char, t = x :: t' ∧ Written s t' := by
  cases h with
  | literal => exact absurd rfl hx
  | control hc => exact absurd hc (by simp [hcontrol])
  | plain _ _ h => exact ⟨_, rfl, h⟩

/-- An escape that has lost its first underscore is written as it stands, up to its last one. -/
theorem Written.eq_tail (h : Written s ('x' :: a :: b :: c :: d :: t)) (hd : Digits a b c d) :
    ∃ s' : List Char, s = 'x' :: a :: b :: c :: d :: s' ∧ Written s' t := by
  obtain ⟨s₁, rfl, h₁⟩ := h.eq_cons (by decide)
  obtain ⟨s₂, rfl, h₂⟩ := h₁.eq_cons (isHexDigit_ne_underscore hd.first)
  obtain ⟨s₃, rfl, h₃⟩ := h₂.eq_cons (isHexDigit_ne_underscore hd.second)
  obtain ⟨s₄, rfl, h₄⟩ := h₃.eq_cons (isHexDigit_ne_underscore hd.third)
  obtain ⟨s₅, rfl, h₅⟩ := h₄.eq_cons (isHexDigit_ne_underscore hd.fourth)
  exact ⟨s₅, rfl, h₅⟩

theorem Written.of_tail (h : Written ('x' :: a :: b :: c :: d :: s) t) (hd : Digits a b c d) :
    ∃ t' : List Char, t = 'x' :: a :: b :: c :: d :: t' ∧ Written s t' := by
  obtain ⟨t₁, rfl, h₁⟩ := h.of_cons (by decide) (by decide)
  obtain ⟨t₂, rfl, h₂⟩ :=
    h₁.of_cons (isHexDigit_ne_underscore hd.first) (not_control_of_hexDigit hd.first)
  obtain ⟨t₃, rfl, h₃⟩ :=
    h₂.of_cons (isHexDigit_ne_underscore hd.second) (not_control_of_hexDigit hd.second)
  obtain ⟨t₄, rfl, h₄⟩ :=
    h₃.of_cons (isHexDigit_ne_underscore hd.third) (not_control_of_hexDigit hd.third)
  obtain ⟨t₅, rfl, h₅⟩ :=
    h₄.of_cons (isHexDigit_ne_underscore hd.fourth) (not_control_of_hexDigit hd.fourth)
  exact ⟨t₅, rfl, h₅⟩

/-- The digits of the escape of a control character. -/
theorem controlEscape_eq {x : Char} (h : isEscapedControl x = true) :
    ∃ c d : Char, Digits '0' '0' c d ∧ digitsChar '0' '0' c d = x
      ∧ controlEscape x = ['_', 'x', '0', '0', c, d, '_'] := by
  have hall : ∀ n < 0x20, isHexDigit (upperHexDigit (n / 16)) = true
      ∧ isHexDigit (upperHexDigit (n % 16)) = true
      ∧ digitsChar '0' '0' (upperHexDigit (n / 16)) (upperHexDigit (n % 16)) = Char.ofNat n := by decide
  obtain ⟨hc, hd, hx⟩ := hall x.toNat (toNat_lt_of_isEscapedControl h)
  rw [Char.ofNat_toNat] at hx
  exact ⟨_, _, ⟨by decide, by decide, hc, hd⟩, hx, rfl⟩

/-- The digits of an underscore. -/
theorem digits_underscore : Digits '0' '0' '5' 'F' := ⟨by decide, by decide, by decide, by decide⟩

/-- The mark of a literal escape gives its underscore back; its last one is read with what follows. -/
theorem unescape_literal (h : Digits a b c d) (t : List Char) :
    unescape (underscoreEscape ++ '_' :: 'x' :: a :: b :: c :: d :: '_' :: t)
      = '_' :: 'x' :: a :: b :: c :: d :: unescape ('_' :: t) := by
  have hchar : digitsChar '0' '0' '5' 'F' = '_' := by decide
  rw [← unescape_tail h, ← hchar]
  exact unescape_digits digits_underscore _

theorem unescape_control {x : Char} (h : isEscapedControl x = true) (t : List Char) :
    unescape (controlEscape x ++ t) = x :: unescape t := by
  obtain ⟨c, d, hd, hchar, he⟩ := controlEscape_eq h
  rw [he, ← hchar]
  exact unescape_digits hd t

/-! ## Collisions -/

/-- Whether the piece at the front is written as an escape. -/
def startsEscape (s : List Char) : Bool := (splitEscape s).isSome || s.head?.any isEscapedControl

/-- `Collides s`: somewhere in `s`, a piece that is written as an escape follows the front of one. -/
inductive Collides : List Char → Prop where
  | here {a b c d : Char} {rest : List Char} : Digits a b c d → startsEscape rest = true →
      Collides ('_' :: 'x' :: a :: b :: c :: d :: rest)
  | later {x : Char} {rest : List Char} : Collides rest → Collides (x :: rest)

theorem collides_cons_iff_of_ne {x : Char} (hx : x ≠ '_') : Collides (x :: s) ↔ Collides s := by
  constructor
  · intro h
    cases h with
    | here => exact absurd rfl hx
    | later h => exact h
  · exact .later

/--
`Opens s`: behind an underscore, what is written for `s` is read as an escape. Its closing underscore may
begin another escape, or stand for itself.
-/
def Opens (s : List Char) : Prop :=
  ∃ (a b c d : Char) (s' : List Char), Digits a b c d ∧ s = 'x' :: a :: b :: c :: d :: s'
    ∧ (startsEscape s' = true ∨ s'.head? = some '_')

theorem startsEscape_underscore_iff (s : List Char) :
    startsEscape ('_' :: s) = true ↔ ∃ (a b c d : Char) (s' : List Char), Digits a b c d
      ∧ s = 'x' :: a :: b :: c :: d :: s' ∧ s'.head? = some '_' := by
  have hcontrol : isEscapedControl '_' = false := by decide
  simp only [startsEscape, List.head?_cons, Option.any_some, hcontrol, Bool.or_false]
  constructor
  · intro h
    obtain ⟨⟨⟨a, b, c, d⟩, rest⟩, hs⟩ := Option.isSome_iff_exists.mp h
    obtain ⟨hd, hs⟩ := splitEscape_eq_some_iff.mp hs
    exact ⟨a, b, c, d, '_' :: rest, hd, (List.cons.inj hs).2, rfl⟩
  · rintro ⟨a, b, c, d, s', hd, rfl, hs⟩
    obtain ⟨rest, rfl⟩ := List.head?_eq_some_iff.mp hs
    rw [splitEscape_digits hd]
    rfl

/-- An underscore begins an escape or a collision exactly if it is read as the beginning of an escape, or
there is a collision behind it. -/
theorem collides_underscore_iff (s : List Char) :
    startsEscape ('_' :: s) = true ∨ Collides ('_' :: s) ↔ Opens s ∨ Collides s := by
  rw [startsEscape_underscore_iff]
  constructor
  · rintro (⟨a, b, c, d, s', hd, rfl, hs⟩ | h)
    · exact Or.inl ⟨a, b, c, d, s', hd, rfl, Or.inr hs⟩
    · cases h with
      | here hd hs => exact Or.inl ⟨_, _, _, _, _, hd, rfl, Or.inl hs⟩
      | later h => exact Or.inr h
  · rintro (⟨a, b, c, d, s', hd, rfl, hs | hs⟩ | h)
    · exact Or.inr (.here hd hs)
    · exact Or.inl ⟨a, b, c, d, s', hd, rfl, hs⟩
    · exact Or.inr (.later h)

/-- Behind the front of an escape there must be no other. -/
theorem collides_front_iff (h : Digits a b c d) (s : List Char) :
    Collides ('_' :: 'x' :: a :: b :: c :: d :: s) ↔ startsEscape s = true ∨ Collides s := by
  have htail : Collides ('x' :: a :: b :: c :: d :: s) ↔ Collides s := by
    rw [collides_cons_iff_of_ne (by decide), collides_cons_iff_of_ne (isHexDigit_ne_underscore h.first),
      collides_cons_iff_of_ne (isHexDigit_ne_underscore h.second),
      collides_cons_iff_of_ne (isHexDigit_ne_underscore h.third),
      collides_cons_iff_of_ne (isHexDigit_ne_underscore h.fourth)]
  constructor
  · intro hc
    cases hc with
    | here _ hs => exact Or.inl hs
    | later hc => exact Or.inr (htail.mp hc)
  · rintro (hs | hc)
    · exact .here h hs
    · exact .later (htail.mpr hc)

/-! ## What a reader makes of an underscore -/

/-- What begins with an underscore when it is written. -/
theorem head_written_iff (h : Written s t) :
    t.head? = some '_' ↔ startsEscape s = true ∨ s.head? = some '_' := by
  cases h with
  | nil => decide
  | literal => exact iff_of_true rfl (Or.inr rfl)
  | control hx => exact iff_of_true rfl (Or.inl (by simp [startsEscape, hx]))
  | plain hs hx => simp [startsEscape, hs, hx]

/-- **What a reader takes for an escape** that begins with an underscore that does not. -/
theorem splitEscape_written_iff (h : Written s t) : (splitEscape ('_' :: t)).isSome = true ↔ Opens s := by
  constructor
  · intro hsome
    obtain ⟨⟨⟨a, b, c, d⟩, rest⟩, hs⟩ := Option.isSome_iff_exists.mp hsome
    obtain ⟨hd, ht⟩ := splitEscape_eq_some_iff.mp hs
    obtain rfl := (List.cons.inj ht).2
    obtain ⟨s', rfl, h'⟩ := h.eq_tail hd
    exact ⟨a, b, c, d, s', hd, rfl, (head_written_iff h').mp rfl⟩
  · rintro ⟨a, b, c, d, s', hd, rfl, hs⟩
    obtain ⟨t', rfl, h'⟩ := h.of_tail hd
    obtain ⟨rest, rfl⟩ := List.head?_eq_some_iff.mp ((head_written_iff h').mpr hs)
    rw [splitEscape_digits hd]
    rfl

/-- What is written behind an underscore, by the piece that the underscore belongs to. -/
inductive Behind : List Char → List Char → Prop where
  | literal {a b c d : Char} {s t : List Char} : Digits a b c d → Written s t →
      Behind ('_' :: 'x' :: a :: b :: c :: d :: '_' :: s)
        ('x' :: '0' :: '0' :: '5' :: 'F' :: '_' :: 'x' :: a :: b :: c :: d :: '_' :: t)
  | control {x c d : Char} {s t : List Char} : isEscapedControl x = true → Digits '0' '0' c d →
      digitsChar '0' '0' c d = x → Written s t →
      Behind (x :: s) ('x' :: '0' :: '0' :: c :: d :: '_' :: t)
  | plain {s t : List Char} : Written s t → Behind ('_' :: s) t

theorem behind_of_written (h : Written s ('_' :: t)) : Behind s t := by
  generalize ht : '_' :: t = u at h
  cases h with
  | nil => exact absurd ht (by simp)
  | literal hd h =>
      obtain rfl := (List.cons.inj ht).2
      exact .literal hd h
  | @control x _ _ hx h =>
      obtain ⟨c, d, hd, hchar, he⟩ := controlEscape_eq hx
      rw [he] at ht
      obtain rfl := (List.cons.inj ht).2
      exact .control hx hd hchar h
  | plain _ _ h =>
      obtain ⟨rfl, rfl⟩ := List.cons.inj ht
      exact .plain h

/-- Reading never makes a text longer than it was, also behind an underscore. -/
theorem length_unescape_le (h : Written s t) :
    (unescape t).length ≤ s.length ∧ (unescape ('_' :: t)).length ≤ s.length + 1 := by
  induction hn : s.length using Nat.strongRecOn generalizing s t with
  | ind n ih =>
    subst hn
    have hfirst : (unescape t).length ≤ s.length := by
      cases h with
      | nil => simp [unescape_nil]
      | @literal a b c d s t hd h =>
          have := (ih s.length (by simp only [List.length_cons]; omega) h rfl).2
          rw [unescape_literal hd]
          simp only [List.length_cons]
          omega
      | @control x s t hx h =>
          have := (ih s.length (by simp) h rfl).1
          rw [unescape_control hx]
          simpa using this
      | @plain x s t hs hx h =>
          have := ih s.length (by simp) h rfl
          by_cases hx : x = '_'
          · subst hx
            exact this.2
          · rw [unescape_cons_of_ne hx]
            simpa using this.1
    refine ⟨hfirst, ?_⟩
    cases hs : splitEscape ('_' :: t) with
    | none =>
        rw [unescape_cons hs]
        simpa using hfirst
    | some p =>
        obtain ⟨⟨a, b, c, d⟩, rest⟩ := p
        obtain ⟨hd, ht⟩ := splitEscape_eq_some_iff.mp hs
        obtain rfl := (List.cons.inj ht).2
        obtain ⟨s', rfl, h'⟩ := h.eq_tail hd
        rw [unescape_digits hd]
        cases behind_of_written h' with
        | @literal _ _ _ _ s₁ t₁ hd₁ h₁ =>
            have := (ih s₁.length (by simp only [List.length_cons]; omega) h₁ rfl).1
            rw [unescape_tail digits_underscore, unescape_digits hd₁]
            simp only [List.length_cons]
            omega
        | @control x _ _ s₁ t₁ hx hd₁ _ h₁ =>
            have := (ih s₁.length (by simp only [List.length_cons]; omega) h₁ rfl).2
            rw [unescape_tail hd₁]
            simp only [List.length_cons]
            omega
        | @plain s₁ _ h₁ =>
            have := (ih s₁.length (by simp only [List.length_cons]; omega) h₁ rfl).1
            simp only [List.length_cons]
            omega

/-- An underscore that is read as the beginning of an escape is lost, whatever the escape stands for. -/
theorem unescape_ne_of_opens (h : Written s t) (ho : Opens s) : unescape ('_' :: t) ≠ '_' :: s := by
  obtain ⟨a, b, c, d, s', hd, rfl, hs⟩ := ho
  obtain ⟨t', rfl, h'⟩ := h.of_tail hd
  obtain ⟨rest, rfl⟩ := List.head?_eq_some_iff.mp ((head_written_iff h').mpr hs)
  rw [unescape_digits hd]
  intro he
  obtain ⟨hchar, he⟩ := List.cons.inj he
  have hlen := congrArg List.length he
  cases behind_of_written h' with
  | literal hd₁ h₁ =>
      have := (length_unescape_le h₁).1
      rw [unescape_tail digits_underscore, unescape_digits hd₁] at hlen
      simp only [List.length_cons] at hlen
      omega
  | control hx hd₁ hchar₁ h₁ =>
      -- the escape that was read would have to be the one that was written for the control character
      rw [unescape_tail hd₁] at he
      simp only [List.cons.injEq] at he
      obtain ⟨-, rfl, rfl, rfl, rfl, -⟩ := he
      exact isEscapedControl_ne_underscore hx (hchar₁.symm.trans hchar)
  | plain h₁ =>
      have := (length_unescape_le h₁).1
      simp only [List.length_cons] at hlen
      omega

/-- What becomes of an underscore, and of what stands behind it. -/
theorem unescape_underscore_iff (h : Written s t) (ih : unescape t = s ↔ ¬ Collides s) :
    unescape ('_' :: t) = '_' :: s ↔ ¬ (Opens s ∨ Collides s) := by
  by_cases ho : Opens s
  · exact iff_of_false (unescape_ne_of_opens h ho) (not_not_intro (Or.inl ho))
  · have hnone : splitEscape ('_' :: t) = none := by
      simpa using mt (splitEscape_written_iff h).mp ho
    rw [unescape_cons hnone, List.cons.injEq, ih]
    simp [ho]

/-! ## What is read is what was written -/

theorem Written.unescape_eq_iff (h : Written s t) : unescape t = s ↔ ¬ Collides s := by
  induction h with
  | nil => exact iff_of_true unescape_nil (by rintro ⟨⟩)
  | @literal a b c d s t hd h ih =>
      rw [unescape_literal hd, collides_front_iff hd, collides_underscore_iff,
        ← unescape_underscore_iff h ih]
      simp
  | @control x s t hx h ih =>
      rw [unescape_control hx, collides_cons_iff_of_ne (isEscapedControl_ne_underscore hx), ← ih]
      simp
  | @plain x s t hs hx h ih =>
      by_cases hx' : x = '_'
      · subst hx'
        have hno : startsEscape ('_' :: s) = false := by simp [startsEscape, hs, hx]
        have hiff := collides_underscore_iff s
        rw [hno] at hiff
        rw [unescape_underscore_iff h ih, ← hiff]
        simp
      · rw [unescape_cons_of_ne hx', collides_cons_iff_of_ne hx', ← ih]
        simp

/-- **A plain text is read back exactly if it does not collide.** -/
theorem unescape_escapeText_iff (s : List Char) : unescape (escapeText s) = s ↔ ¬ Collides s :=
  (written_escapeText s).unescape_eq_iff

/-- A stored cell is read as a text: it holds plain text, and reading its escapes gives that text. -/
def Content.ReadsAs (content : Content) (s : String) : Prop :=
  ∃ escaped : List Char, content.stored? = some (.plain escaped) ∧ unescape escaped = s.toList

theorem readsAs_string_iff (s : String) :
    (Content.string s).ReadsAs s ↔ isRuns s.toList = false ∧ ¬ Collides s.toList := by
  rw [Content.ReadsAs, Content.stored?, StoredText.ofChars, ← unescape_escapeText_iff]
  cases isRuns s.toList with
  | true => simp
  | false => simp

/-! ## At the top -/

/--
**Which texts are read back.** For a text of the table that is not empty there is a stored cell in its
place, and the text is read back from it exactly if it neither looks like rich-text runs nor collides.
-/
theorem reads_back_iff {t : Table} {name : String} {w : Workbook} {i j : Nat} {row : List Table.Cell}
    {s : String} (h : ofTable t name = .ok w) (hi : t.rows[i]? = some row)
    (hj : row[j]? = some (.text s)) (hs : s ≠ "") :
    (∃ c ∈ w.cells, c.place = (i + 1, j)) ∧ ∀ c ∈ w.cells, c.place = (i + 1, j) →
      (c.content.ReadsAs s ↔ isRuns s.toList = false ∧ ¬ Collides s.toList) := by
  rw [ofTable_eq_ok h]
  refine ⟨⟨_, mem_layout_iff.mpr (.cell hi hj (.text hs)), rfl⟩, ?_⟩
  intro c hc hplace
  cases mem_layout_iff.mp hc with
  | name | noName => exact absurd (Prod.mk.inj hplace).1 (by simp)
  | cell hi' hj' hshows =>
      -- the place says which cell of the table it was
      obtain ⟨hrow, rfl⟩ := Prod.mk.inj hplace
      obtain rfl := Nat.succ.inj hrow
      obtain rfl := Option.some.inj (hi.symm.trans hi')
      obtain rfl := Option.some.inj (hj.symm.trans hj')
      cases hshows with
      | text => exact readsAs_string_iff s

/-- Texts that a workbook takes for something of its own: an escape, rich-text runs, two escapes that share
an underscore. -/
def sampleTexts : Table where
  columns := [⟨"a", .text⟩]
  rows := [[.text "_x0041_"], [.text "<r></r>"], [.text "_x0041_x0042_"]]
  rectangular := by decide

theorem ofTable_sampleTexts : ofTable sampleTexts "S" = .ok ⟨"S", layout sampleTexts, 4⟩ := by
  have hname : sheetNameFault "S" = none := by decide
  have hlimits : limitFault sampleTexts = none := by decide +kernel
  simp only [ofTable, hname, hlimits]
  rfl

/-- An escape that stands alone is read back. -/
theorem reads_back_escape : ∃ w : Workbook, ofTable sampleTexts "S" = .ok w
    ∧ ∃ c ∈ w.cells, c.place = (1, 0) ∧ c.content.ReadsAs "_x0041_" := by
  have hdigits : Digits '0' '0' '4' '1' := ⟨by decide, by decide, by decide, by decide⟩
  have hnone : ¬ Collides ['_', 'x', '0', '0', '4', '1', '_'] := by
    rw [collides_front_iff hdigits]
    rintro (h | h)
    · exact absurd h (by decide)
    · cases h with
      | later h => cases h
  obtain ⟨⟨c, hc, hplace⟩, hiff⟩ :=
    reads_back_iff (i := 0) (j := 0) (s := "_x0041_") ofTable_sampleTexts rfl rfl (by decide)
  exact ⟨_, ofTable_sampleTexts, c, hc, hplace, (hiff c hc hplace).mpr ⟨by decide, hnone⟩⟩

/-- Runs are not read back, and neither are escapes that share an underscore. -/
theorem not_reads_back : ∃ w : Workbook, ofTable sampleTexts "S" = .ok w
    ∧ ⟨2, 0, .string "<r></r>", false⟩ ∈ w.cells ∧ ¬ (Content.string "<r></r>").ReadsAs "<r></r>"
    ∧ ⟨3, 0, .string "_x0041_x0042_", false⟩ ∈ w.cells
    ∧ ¬ (Content.string "_x0041_x0042_").ReadsAs "_x0041_x0042_" := by
  have hdigits : Digits '0' '0' '4' '1' := ⟨by decide, by decide, by decide, by decide⟩
  refine ⟨_, ofTable_sampleTexts, by decide, ?_, by decide, ?_⟩
  · rw [readsAs_string_iff]
    exact fun h => absurd h.1 (by decide)
  · rw [readsAs_string_iff]
    exact fun h => h.2 (.here hdigits (by decide))

end ReportServer.Workbook
