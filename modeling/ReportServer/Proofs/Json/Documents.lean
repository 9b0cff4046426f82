import ReportServer.Proofs.Json.Parts

/-!
# Which texts are documents

The grammar of JSON, said without a reader: which texts are arrays, objects and values, and which outline a document
has. The reader finds the outline of every document and of nothing else (`outline?_eq_some_iff`).

Only numbers can be continued by what follows them, and what follows a value in a document, a gap, a comma or a closing
bracket, continues no number. How deep containers may nest is bounded by the length of the text, and a value inside
another is shorter by two brackets, so that bound is always enough.
-/

namespace ReportServer.Json

variable {α : Type} {s w rest g : List Char}

/-! ## Containers -/

/-- Items with commas between them, and gaps around each of them. -/
inductive Listed (R : α → List Char → Prop) : List α → List Char → Prop
  | one {a : α} {before w after : List Char} : Gap before → R a w → Gap after →
    Listed R [a] (before ++ (w ++ after))
  | cons {a : α} {as : List α} {before w after more : List Char} : Gap before → R a w → Gap after →
    Listed R as more → Listed R (a :: as) (before ++ (w ++ (after ++ ',' :: more)))

/-- What stands between the brackets of a container: a gap, or items. -/
inductive Bracketed (R : α → List Char → Prop) : List α → List Char → Prop
  | none {g : List Char} : Gap g → Bracketed R [] g
  | some {as : List α} {w : List Char} : Listed R as w → Bracketed R as w

/-- A member of an object: a name, a colon, and a value. -/
inductive Member (R : Outline → List Char → Prop) : List Char × Outline → List Char → Prop
  | mk {name before after w : List Char} {v : Outline} : Inside name → Gap before → Gap after → R v w →
    Member R (name, v) ('"' :: (name ++ '"' :: (before ++ ':' :: (after ++ w))))

/-- `Sound read R`: what is taken from the front of a text is a gap and something that `R` says. -/
def Sound (read : List Char → Option (α × List Char)) (R : α → List Char → Prop) : Prop :=
  ∀ ⦃s a rest⦄, read s = some (a, rest) → ∃ before w, s = before ++ (w ++ rest) ∧ Gap before ∧ R a w

/-- `Complete n read R`: a gap and whatever `R` says is taken, as long as it is no longer than `n` and not continued. -/
def Complete (n : Nat) (read : List Char → Option (α × List Char)) (R : α → List Char → Prop) : Prop :=
  ∀ ⦃before a w rest⦄, Gap before → R a w → w.length ≤ n → Ends rest → read (before ++ (w ++ rest)) = some (a, rest)

theorem taken_shorter_eq_some_iff {r : Option (α × List Char)} {a : α} :
    taken (shorter s r) = some (a, rest) ↔ r = some (a, rest) ∧ rest.length < s.length := by
  cases r with
  | none => simp [shorter, taken]
  | some x =>
    rw [shorter]
    split
    · next h =>
      constructor
      · intro hx
        obtain rfl : x = (a, rest) := Option.some.inj hx
        exact ⟨rfl, h⟩
      · rintro ⟨hx, -⟩
        exact hx
    · next h =>
      constructor
      · intro hx
        cases hx
      · rintro ⟨hx, hlt⟩
        obtain rfl : x = (a, rest) := Option.some.inj hx
        exact absurd hlt h

section Items

variable {close : Char} {item : (s : List Char) → Parsed α s} {R : α → List Char → Prop} {as found : List α}

/-- One round of the loop over the items of a container. -/
theorem taken_items (s : List Char) : taken (items close item found s) = (taken (item s)).bind fun r =>
    match skipGap r.2 with
    | [] => none
    | c :: rest =>
      if c = close then some ((r.1 :: found).reverse, rest)
      else if c = ',' then taken (items close item (r.1 :: found) rest)
      else none := by
  rw [items]
  cases hitem : item s with
  | none => rfl
  | some r =>
    obtain ⟨⟨a, rest⟩, h⟩ := r
    simp only [taken, Option.map_some, Option.bind_some]
    split
    · next hs => simp only [hs, Option.map_none]
    · next c rest' hs =>
      simp only [hs]
      split
      · rfl
      · split
        · exact taken_widen _ _
        · rfl

theorem items_sound (hitem : Sound (fun s => taken (item s)) R) (h : taken (items close item found s) = some (as, rest)) :
    ∃ more w, as = found.reverse ++ more ∧ s = w ++ close :: rest ∧ Listed R more w := by
  induction hn : s.length using Nat.strong_induction_on generalizing s found with
  | _ n ih =>
    rw [taken_items, Option.bind_eq_some_iff] at h
    obtain ⟨⟨a, behind⟩, hread, h⟩ := h
    obtain ⟨before, w, rfl, hbefore, hw⟩ := hitem hread
    dsimp only at h
    split at h
    · cases h
    · next c behind' hbehind =>
      obtain ⟨after, rfl, hafter⟩ := exists_gap_of_skipGap hbehind
      split at h
      · next hclose =>
        obtain ⟨rfl, rfl⟩ := Prod.mk.inj (Option.some.inj h)
        exact ⟨[a], before ++ (w ++ after), by simp, by simp [hclose], .one hbefore hw hafter⟩
      · split at h
        · next hcomma =>
          have hlt : behind'.length < n := by
            rw [← hn]
            simp only [List.length_append, List.length_cons]
            omega
          obtain ⟨more, w', rfl, rfl, hmore⟩ := ih _ hlt h rfl
          exact ⟨a :: more, before ++ (w ++ (after ++ ',' :: w')), by simp, by simp [hcomma],
            .cons hbefore hw hafter hmore⟩
        · cases h

theorem items_complete {n : Nat} (hitem : Complete n (fun s => taken (item s)) R) (hcomma : close ≠ ',')
    (hgap : isGap close = false) (hends : Ends (close :: rest)) (h : Listed R as w) (hn : w.length ≤ n) :
    taken (items close item found (w ++ close :: rest)) = some (found.reverse ++ as, rest) := by
  induction h generalizing found with
  | @one a before w after hbefore hw hafter =>
    have hlength : w.length ≤ n := by
      simp only [List.length_append] at hn
      omega
    have hread : taken (item (before ++ (w ++ (after ++ close :: rest)))) = some (a, after ++ close :: rest) :=
      hitem hbefore hw hlength (hafter.ends_append hends)
    have htext : before ++ (w ++ after) ++ close :: rest = before ++ (w ++ (after ++ close :: rest)) := by simp
    rw [htext, taken_items, hread, Option.bind_some]
    simp only [skipGap_append hafter, skipGap_cons hgap, if_true, List.reverse_cons]
  | @cons a as before w after more hbefore hw hafter _ ih =>
    have hlength : w.length ≤ n ∧ more.length ≤ n := by
      simp only [List.length_append, List.length_cons] at hn
      omega
    have hends' : Ends (',' :: (more ++ close :: rest)) := ends_cons.mpr (by decide)
    have hread : taken (item (before ++ (w ++ (after ++ ',' :: (more ++ close :: rest)))))
        = some (a, after ++ ',' :: (more ++ close :: rest)) := hitem hbefore hw hlength.1 (hafter.ends_append hends')
    have htext : before ++ (w ++ (after ++ ',' :: more)) ++ close :: rest
        = before ++ (w ++ (after ++ ',' :: (more ++ close :: rest))) := by simp
    have hgap' : isGap ',' = false := rfl
    rw [htext, taken_items, hread, Option.bind_some]
    simp only [skipGap_append hafter, skipGap_cons hgap', if_neg hcomma.symm, if_true, ih hlength.2]
    simp

/-- A gap in front of items is a gap in front of the first of them. -/
theorem Listed.gap_append (hg : Gap g) (h : Listed R as w) : Listed R as (g ++ w) := by
  have hgap : ∀ {before : List Char}, Gap before → Gap (g ++ before) := by
    intro before hbefore c hc
    rcases List.mem_append.mp hc with hc | hc
    · exact hg c hc
    · exact hbefore c hc
  cases h with
  | one hbefore hw hafter =>
    rw [← List.append_assoc]
    exact .one (hgap hbefore) hw hafter
  | cons hbefore hw hafter hmore =>
    rw [← List.append_assoc]
    exact .cons (hgap hbefore) hw hafter hmore

/-- `Starts close R`: what `R` says begins neither with a gap nor with this bracket. -/
def Starts (close : Char) (R : α → List Char → Prop) : Prop :=
  ∀ ⦃a w⦄, R a w → ∃ c t, w = c :: t ∧ isGap c = false ∧ c ≠ close

theorem Listed.exists_cons (hR : Starts close R) (h : Listed R as w) :
    ∃ before c t, w = before ++ c :: t ∧ Gap before ∧ isGap c = false ∧ c ≠ close ∧ Listed R as (c :: t) := by
  have hnil : Gap [] := by simp [Gap]
  cases h with
  | one hbefore hw hafter =>
    obtain ⟨c, t, rfl, hc, hne⟩ := hR hw
    exact ⟨_, c, _, rfl, hbefore, hc, hne, .one hnil hw hafter⟩
  | cons hbefore hw hafter hmore =>
    obtain ⟨c, t, rfl, hc, hne⟩ := hR hw
    exact ⟨_, c, _, rfl, hbefore, hc, hne, .cons hnil hw hafter hmore⟩

theorem bracketed_sound (hitem : Sound (fun s => taken (item s)) R) (h : bracketed close item s = some (as, rest)) :
    ∃ w, s = w ++ close :: rest ∧ Bracketed R as w := by
  unfold bracketed at h
  split at h
  · cases h
  · next c behind hs =>
    obtain ⟨before, rfl, hbefore⟩ := exists_gap_of_skipGap hs
    split at h
    · next hclose =>
      obtain ⟨rfl, rfl⟩ := Prod.mk.inj (Option.some.inj h)
      exact ⟨before, by rw [hclose], .none hbefore⟩
    · obtain ⟨more, w, rfl, hw, hmore⟩ := items_sound hitem h
      exact ⟨before ++ w, by rw [hw, List.append_assoc], .some (hmore.gap_append hbefore)⟩

theorem bracketed_complete {n : Nat} (hitem : Complete n (fun s => taken (item s)) R) (hR : Starts close R)
    (hcomma : close ≠ ',') (hgap : isGap close = false) (hends : Ends (close :: rest)) (h : Bracketed R as w)
    (hn : w.length ≤ n) : bracketed close item (w ++ close :: rest) = some (as, rest) := by
  cases h with
  | none hg => simp only [bracketed, skipGap_append hg, skipGap_cons hgap, if_true]
  | some h =>
    obtain ⟨before, c, t, rfl, hbefore, hc, hne, hitems⟩ := h.exists_cons hR
    have hlength : (c :: t).length ≤ n := by
      rw [List.length_append] at hn
      omega
    simp only [bracketed, List.append_assoc, List.cons_append, skipGap_append hbefore, skipGap_cons hc, if_neg hne]
    exact items_complete hitem hcomma hgap hends hitems hlength

end Items

/-! ## Members -/

section Members

variable {read : List Char → Option (Outline × List Char)} {R : Outline → List Char → Prop}

theorem member_sound (hread : Sound read R) : Sound (fun s => taken (member outlined read s)) (Member R) := by
  rintro s ⟨name, v⟩ rest htaken
  obtain ⟨h, -⟩ := taken_shorter_eq_some_iff.mp htaken
  split at h
  · next behind hs =>
    obtain ⟨before, rfl, hbefore⟩ := exists_gap_of_skipGap hs
    obtain ⟨⟨name', behind'⟩, hname, hmember⟩ := Option.bind_eq_some_iff.mp h
    obtain ⟨rfl, hinside⟩ := written_sound hname
    dsimp only at hmember
    split at hmember
    · next hcolon =>
      obtain ⟨gap, rfl, hgap⟩ := exists_gap_of_skipGap hcolon
      obtain ⟨⟨v', rest'⟩, hv, hpair⟩ := Option.bind_eq_some_iff.mp hmember
      obtain ⟨gap', w, rfl, hgap', hw⟩ := hread hv
      obtain ⟨hsame, rfl⟩ := Prod.mk.inj (Option.some.inj hpair)
      obtain ⟨rfl, rfl⟩ := Prod.mk.inj hsame
      exact ⟨before, _, by simp, hbefore, .mk hinside hgap hgap' hw⟩
    · cases hmember
  · cases h

theorem member_complete {n : Nat} (hread : Complete n read R) :
    Complete n (fun s => taken (member outlined read s)) (Member R) := by
  intro before m w rest hbefore hm hn hends
  cases hm with
  | @mk name gap gap' w v hname hgap hgap' hw =>
    have hlength : w.length ≤ n := by
      simp only [List.length_append, List.length_cons] at hn
      omega
    have hvalue : read (gap' ++ (w ++ rest)) = some (v, rest) := hread hgap' hw hlength hends
    refine taken_shorter_eq_some_iff.mpr ⟨?_, ?_⟩
    · have hquote : isGap '"' = false := rfl
      have hcolon : isGap ':' = false := rfl
      simp only [List.append_assoc, List.cons_append, skipGap_append hbefore, skipGap_cons hquote, outlined,
        written_complete hname, Option.bind_eq_bind, Option.bind_some, skipGap_append hgap, skipGap_cons hcolon, hvalue,
        Option.pure_def]
    · simp only [List.length_append, List.length_cons]
      omega

end Members

/-! ## Values -/

/-- A value. -/
inductive Writes : Outline → List Char → Prop
  | null : Writes .null ['n', 'u', 'l', 'l']
  | yes : Writes .scalar ['t', 'r', 'u', 'e']
  | no : Writes .scalar ['f', 'a', 'l', 's', 'e']
  | number {w : List Char} : Number w → Writes .scalar w
  | text {w : List Char} : Inside w → Writes (.text w) ('"' :: (w ++ ['"']))
  | arr {items : List Outline} {w : List Char} : Bracketed Writes items w → Writes (.arr items) ('[' :: (w ++ [']']))
  | obj {members : List (List Char × Outline)} {w : List Char} : Bracketed (Member Writes) members w →
    Writes (.obj members) ('\x7b' :: (w ++ ['\x7d']))

theorem Number.exists_cons (h : Number w) : ∃ c t, w = c :: t ∧ (c = '-' ∨ c.isDigit = true) := by
  cases h with
  | mk hsign hwhole =>
    obtain ⟨c, t, rfl⟩ := List.exists_cons_of_ne_nil hwhole.nonempty
    rcases hsign with rfl | rfl
    · exact ⟨c, _, rfl, .inr (hwhole.digits c List.mem_cons_self)⟩
    · exact ⟨'-', _, rfl, .inl rfl⟩

/-- What is read without the brackets of a container around it is bounded by the text all the same. -/
theorem Sound.shorter {read : List Char → Option (α × List Char)} {R : α → List Char → Prop} (h : Sound read R) :
    Sound (fun s => taken (shorter s (read s))) R :=
  fun _ _ _ htaken => h (taken_shorter_eq_some_iff.mp htaken).1

/-- A value is sound if the values inside it are. -/
theorem value_sound_of_inner {depth : Nat} (hinner : ∀ inner, depth = inner + 1 → Sound (value outlined inner) Writes) :
    Sound (value outlined depth) Writes := by
  intro s v rest h
  unfold value at h
  split at h
  · cases h
  · next behind hs =>
    obtain ⟨before, rfl, hbefore⟩ := exists_gap_of_skipGap hs
    obtain ⟨⟨w, rest'⟩, hstring, hv⟩ := Option.map_eq_some_iff.mp h
    obtain ⟨rfl, rfl⟩ := Prod.mk.inj hv
    obtain ⟨rfl, hinside⟩ := written_sound hstring
    exact ⟨before, _, by simp, hbefore, .text hinside⟩
  · next behind hs =>
    obtain ⟨before, rfl, hbefore⟩ := exists_gap_of_skipGap hs
    split at h
    · cases h
    · next inner =>
      obtain ⟨⟨items, rest'⟩, hitems, hv⟩ := Option.map_eq_some_iff.mp h
      obtain ⟨rfl, rfl⟩ := Prod.mk.inj hv
      obtain ⟨w, rfl, hw⟩ := bracketed_sound (hinner inner rfl).shorter hitems
      exact ⟨before, _, by simp, hbefore, .arr hw⟩
  · next behind hs =>
    obtain ⟨before, rfl, hbefore⟩ := exists_gap_of_skipGap hs
    split at h
    · cases h
    · next inner =>
      obtain ⟨⟨members, rest'⟩, hmembers, hv⟩ := Option.map_eq_some_iff.mp h
      obtain ⟨rfl, rfl⟩ := Prod.mk.inj hv
      obtain ⟨w, rfl, hw⟩ := bracketed_sound (member_sound (hinner inner rfl)) hmembers
      exact ⟨before, _, by simp, hbefore, .obj hw⟩
  · next c behind _ _ _ hs =>
    obtain ⟨before, rfl, hbefore⟩ := exists_gap_of_skipGap hs
    have hword : ∀ {word : List Char} {u : Outline}, (expect word behind).map (fun r => (u, r)) = some (v, rest) →
        Writes u (c :: word) → ∃ before' w, before ++ c :: behind = before' ++ (w ++ rest) ∧ Gap before' ∧ Writes v w := by
      intro word u hmap hwrites
      obtain ⟨rest', hexpect, hv⟩ := Option.map_eq_some_iff.mp hmap
      obtain ⟨rfl, rfl⟩ := Prod.mk.inj hv
      exact ⟨before, c :: word, by rw [expect_eq_some_iff.mp hexpect, List.cons_append], hbefore, hwrites⟩
    split at h
    · next hc => exact hword h (hc ▸ .null)
    · split at h
      · next hc => exact hword h (hc ▸ .yes)
      · split at h
        · next hc => exact hword h (hc ▸ .no)
        · obtain ⟨⟨n, rest'⟩, hnumeral, hv⟩ := Option.map_eq_some_iff.mp h
          obtain ⟨rfl, rfl⟩ := Prod.mk.inj hv
          obtain ⟨w, hw, hnumber⟩ := numeral_sound hnumeral
          exact ⟨before, w, by rw [hw], hbefore, .number hnumber⟩

/-- **What is read is a value**, however deep its containers nest. By induction on the depth that is allowed. -/
theorem value_sound (depth : Nat) : Sound (value outlined depth) Writes := by
  induction depth with
  | zero => exact value_sound_of_inner fun inner h => absurd h (by omega)
  | succ depth ih =>
    refine value_sound_of_inner fun inner h => ?_
    obtain rfl : depth = inner := by omega
    exact ih

/-- The characters that have a meaning at the beginning of a value or behind it, but not in a number. -/
def marks : List Char := ['"', '[', ']', '\x7b', '\x7d', 'n', 't', 'f', ' ', '\n', '\t', '\r']

theorem Number.ne_of_mem_marks (h : Number w) : ∃ c t, w = c :: t ∧ ∀ d ∈ marks, c ≠ d := by
  obtain ⟨c, t, rfl, hc⟩ := h.exists_cons
  have hother : ∀ d ∈ marks, d ≠ '-' ∧ d.isDigit = false := by simp [marks, Char.isDigit]
  refine ⟨c, t, rfl, ?_⟩
  rintro _ hd rfl
  obtain ⟨hminus, hdigit⟩ := hother c hd
  rcases hc with rfl | hc
  · exact hminus rfl
  · exact absurd (hdigit.symm.trans hc) (by simp)

/-- A value begins with a character that is no gap and closes no container. -/
theorem Writes.exists_cons {v : Outline} (h : Writes v w) :
    ∃ c t, w = c :: t ∧ isGap c = false ∧ c ≠ ']' ∧ c ≠ '\x7d' := by
  cases h with
  | number hw =>
    obtain ⟨c, t, rfl, hne⟩ := hw.ne_of_mem_marks
    refine ⟨c, t, rfl, ?_, hne _ (by decide), hne _ (by decide)⟩
    simp [isGap, hne _ (show ' ' ∈ marks by decide), hne _ (show '\n' ∈ marks by decide),
      hne _ (show '\t' ∈ marks by decide), hne _ (show '\r' ∈ marks by decide)]
  | null | yes | no | text | arr | obj => exact ⟨_, _, rfl, by decide⟩

theorem Writes.ne_nil {v : Outline} (h : Writes v w) : w ≠ [] := by
  obtain ⟨c, t, rfl, -⟩ := h.exists_cons
  exact List.cons_ne_nil c t

theorem starts_writes : Starts ']' Writes := by
  intro v w h
  obtain ⟨c, t, rfl, hc, hclose, -⟩ := h.exists_cons
  exact ⟨c, t, rfl, hc, hclose⟩

theorem starts_member {R : Outline → List Char → Prop} : Starts '\x7d' (Member R) := by
  rintro _ _ ⟨⟩
  exact ⟨_, _, rfl, by decide, by decide⟩

theorem Complete.shorter {n : Nat} {read : List Char → Option (α × List Char)} {R : α → List Char → Prop}
    (h : Complete n read R) (hR : ∀ ⦃a w⦄, R a w → w ≠ []) : Complete n (fun s => taken (shorter s (read s))) R := by
  intro before a w rest hbefore hw hn hends
  refine taken_shorter_eq_some_iff.mpr ⟨h hbefore hw hn hends, ?_⟩
  have hpos := List.length_pos_iff.mpr (hR hw)
  simp only [List.length_append]
  omega

/-- A number is none of the other kinds of value by what it begins with. -/
theorem value_number {depth : Nat} {s : List Char} (hskip : skipGap s = w ++ rest) (h : Number w) (hends : Ends rest) :
    value outlined depth s = some (.scalar, rest) := by
  obtain ⟨c, t, rfl, hne⟩ := h.ne_of_mem_marks
  obtain ⟨n, hnumeral⟩ := numeral_complete h hends
  unfold value
  rw [hskip]
  split
  · next heq => cases heq
  · next heq => exact absurd (List.cons.inj heq).1 (hne _ (by decide))
  · next heq => exact absurd (List.cons.inj heq).1 (hne _ (by decide))
  · next heq => exact absurd (List.cons.inj heq).1 (hne _ (by decide))
  · next c' t' _ _ _ heq =>
    obtain ⟨rfl, rfl⟩ := List.cons.inj heq
    rw [if_neg (hne _ (by decide)), if_neg (hne _ (by decide)), if_neg (hne _ (by decide))]
    show (numeral (c :: t ++ rest)).map (fun r => (Outline.scalar, r.2)) = _
    rw [hnumeral]
    rfl

/-- A value is read whole if the values inside it are. -/
theorem value_complete_of_inner {depth : Nat}
    (hinner : ∀ inner, depth = inner + 1 → Complete inner (value outlined inner) Writes) :
    Complete depth (value outlined depth) Writes := by
  intro before v w rest hbefore hw hn hends
  have hword : ∀ (word : List Char) (v : Outline),
      ((expect word (word ++ rest)).map fun r => (v, r)) = some (v, rest) := by
    intro word v
    rw [expect_eq_some_iff.mpr rfl]
    rfl
  obtain ⟨c, t, hcons, hc, -⟩ := hw.exists_cons
  have hskip : skipGap (before ++ (w ++ rest)) = w ++ rest := by
    rw [skipGap_append hbefore, hcons, List.cons_append, skipGap_cons hc]
  cases hw
  case number hnumber => exact value_number hskip hnumber hends
  all_goals
    unfold value
    rw [hskip]
  case null => exact hword ['u', 'l', 'l'] .null
  case yes => exact hword ['r', 'u', 'e'] .scalar
  case no => exact hword ['a', 'l', 's', 'e'] .scalar
  case text w hinside =>
    have htext : '"' :: (w ++ ['"']) ++ rest = '"' :: (w ++ '"' :: rest) := by simp
    rw [htext]
    show (written (w ++ '"' :: rest)).map (fun r => (Outline.text r.1, r.2)) = _
    rw [written_complete hinside]
    rfl
  case arr items w hitems =>
    have htext : '[' :: (w ++ [']']) ++ rest = '[' :: (w ++ ']' :: rest) := by simp
    simp only [List.length_cons, List.length_append, List.length_nil] at hn
    obtain ⟨inner, rfl⟩ : ∃ inner, depth = inner + 1 := ⟨depth - 1, by omega⟩
    have hread : bracketed ']' (fun s => shorter s (value outlined inner s)) (w ++ ']' :: rest) = some (items, rest) :=
      bracketed_complete ((hinner inner rfl).shorter fun _ _ h => h.ne_nil) starts_writes (by decide) rfl
        (ends_cons.mpr (by decide)) hitems (by omega)
    rw [htext]
    show (bracketed ']' _ (w ++ ']' :: rest)).map (fun r => (Outline.arr r.1, r.2)) = _
    rw [hread]
    rfl
  case obj members w hmembers =>
    have htext : '\x7b' :: (w ++ ['\x7d']) ++ rest = '\x7b' :: (w ++ '\x7d' :: rest) := by simp
    simp only [List.length_cons, List.length_append, List.length_nil] at hn
    obtain ⟨inner, rfl⟩ : ∃ inner, depth = inner + 1 := ⟨depth - 1, by omega⟩
    have hread : bracketed '\x7d' (member outlined (value outlined inner)) (w ++ '\x7d' :: rest) = some (members, rest) :=
      bracketed_complete (member_complete (hinner inner rfl)) starts_member (by decide) rfl
        (ends_cons.mpr (by decide)) hmembers (by omega)
    rw [htext]
    show (bracketed '\x7d' _ (w ++ '\x7d' :: rest)).map (fun r => (Outline.obj r.1, r.2)) = _
    rw [hread]
    rfl

/-- **Every value is read whole**, if its containers are allowed to nest as deep as it is long. -/
theorem value_complete (depth : Nat) : Complete depth (value outlined depth) Writes := by
  induction depth with
  | zero => exact value_complete_of_inner fun inner h => absurd h (by omega)
  | succ depth ih =>
    refine value_complete_of_inner fun inner h => ?_
    obtain rfl : depth = inner := by omega
    exact ih

/-! ## Documents -/

/-- A document: one value with gaps around it. -/
inductive Document : Outline → List Char → Prop
  | mk {before w after : List Char} {v : Outline} : Gap before → Writes v w → Gap after →
    Document v (before ++ (w ++ after))

/-- **The reader finds the outline of a document**, and none in any other text. -/
theorem outline?_eq_some_iff {v : Outline} : outline? s = some v ↔ Document v s := by
  unfold outline? document
  constructor
  · intro h
    split at h
    · next v' rest hread =>
      split at h
      · next hempty =>
        obtain rfl : v' = v := Option.some.inj h
        obtain ⟨before, w, rfl, hbefore, hw⟩ := value_sound _ hread
        obtain ⟨after, hafter, hgap⟩ := exists_gap_of_skipGap (List.isEmpty_iff.mp hempty)
        rw [List.append_nil] at hafter
        exact .mk hbefore hw (hafter ▸ hgap)
      · cases h
    · cases h
  · rintro @⟨before, w, after, _, hbefore, hw, hafter⟩
    have hlength : w.length ≤ (before ++ (w ++ after)).length := by
      simp only [List.length_append]
      omega
    have hends : Ends after := List.append_nil after ▸ hafter.ends_append ends_nil
    have hnil : skipGap after = [] := List.append_nil after ▸ skipGap_append hafter []
    rw [value_complete _ hbefore hw hlength hends]
    simp only [hnil, List.isEmpty_nil, if_true]

/-- A text is the document of one outline at most. -/
theorem Document.unique {v v' : Outline} (h : Document v s) (h' : Document v' s) : v = v' :=
  Option.some.inj ((outline?_eq_some_iff.mpr h).symm.trans (outline?_eq_some_iff.mpr h'))

end ReportServer.Json
