import ReportServer.Text.Utf8

/-!
# Headers

Named values of a request or an answer, in order. Names do not depend on case and are kept in lower
case. A value is a text; it can be sent if it holds no control character but the tab, and it can be
read as plain text if it is visible ASCII, blanks and tabs.
-/

namespace ReportServer.Http

/-- Named values in order. -/
abbrev Headers := List (String × String)

namespace Headers

/-- The first value of a name. -/
def first? (h : Headers) (name : String) : Option String :=
  (h.find? (·.1 == name)).map Prod.snd

/-- All values of a name, in order. -/
def all (h : Headers) (name : String) : List String := (h.filter (·.1 == name)).map Prod.snd

/-- Whether there is a value of a name. -/
def contains (h : Headers) (name : String) : Bool := h.any (·.1 == name)

/-- The headers without a name. -/
def remove (h : Headers) (name : String) : Headers := h.filter (·.1 != name)

/-- The headers with one value of a name, whatever there was of it before. -/
def set (h : Headers) (name value : String) : Headers := h.remove name ++ [(name, value)]

/-- The headers with one more value of a name. -/
def add (h : Headers) (name value : String) : Headers := h ++ [(name, value)]

/-! Giving a name a value changes nothing for the others. -/

variable {h : Headers} {name other value : String}

theorem all_append (h k : Headers) (name : String) : Headers.all (h ++ k) name = h.all name ++ k.all name := by
  simp [all]

theorem all_add_of_ne (hne : other ≠ name) : (h.add other value).all name = h.all name := by
  simp [add, all, hne]

theorem all_remove_of_ne (hne : other ≠ name) : (h.remove other).all name = h.all name := by
  have hkeep : ∀ x : String × String, (x.1 == name && x.1 != other) = (x.1 == name) := by
    intro x
    by_cases hx : x.1 = name
    · simp [hx, hne.symm]
    · simp [hx]
  simp only [remove, all, List.filter_filter, hkeep]

theorem all_set_of_ne (hne : other ≠ name) : (h.set other value).all name = h.all name :=
  (all_add_of_ne hne).trans (all_remove_of_ne hne)

theorem all_set_self : (h.set name value).all name = [value] := by
  have hnone : ∀ x : String × String, (x.1 == name && x.1 != name) = false := by
    intro x
    by_cases hx : x.1 = name <;> simp [hx]
  simp [set, remove, all, List.filter_append, List.filter_filter, hnone]

theorem all_set : (h.set other value).all name = if other = name then [value] else h.all name := by
  split
  · next he => exact he ▸ all_set_self
  · next hne => exact all_set_of_ne hne

theorem contains_eq_false_iff : h.contains name = false ↔ h.all name = [] := by
  simp [contains, all]

theorem contains_eq_not_isEmpty : h.contains name = !(h.all name).isEmpty := by
  cases hc : h.contains name with
  | false => simp [contains_eq_false_iff.mp hc]
  | true =>
    have hne : h.all name ≠ [] := fun he => absurd (contains_eq_false_iff.mpr he) (by simp [hc])
    simp [hne]

end Headers

/-- Whether a character may stand in a header value: no control character but the tab. -/
def isHeaderChar (c : Char) : Bool := c == '\t' || (0x20 ≤ c.toNat && c.toNat != 0x7F)

/-- Whether a text can be sent as a header value. -/
def isHeaderValue (s : String) : Bool := s.toList.all isHeaderChar

theorem isHeaderChar_iff {c : Char} : isHeaderChar c = true ↔ c = '\t' ∨ ' ' ≤ c ∧ c ≠ '\x7f' := by
  have hblank : ' ' ≤ c ↔ 0x20 ≤ c.toNat := UInt32.le_iff_toNat_le
  have hdelete : c ≠ '\x7f' ↔ c.toNat ≠ 0x7F := not_congr ⟨fun h => h ▸ rfl, fun h => Char.toNat_inj.mp h⟩
  rw [isHeaderChar, hblank, hdelete]
  simp

theorem isHeaderValue_iff {s : String} :
    isHeaderValue s = true ↔ ∀ c ∈ s.toList, c = '\t' ∨ ' ' ≤ c ∧ c ≠ '\x7f' := by
  simp only [isHeaderValue, List.all_eq_true, isHeaderChar_iff]

/-- Whether a character is visible ASCII, a blank or a tab. -/
def isPlainChar (c : Char) : Bool := c == '\t' || (0x20 ≤ c.toNat && c.toNat < 0x7F)

theorem isPlainChar_iff {c : Char} : isPlainChar c = true ↔ c = '\t' ∨ ' ' ≤ c ∧ c ≤ '~' := by
  have hblank : ' ' ≤ c ↔ 0x20 ≤ c.toNat := UInt32.le_iff_toNat_le
  have htilde : c ≤ '~' ↔ c.toNat ≤ 0x7E := UInt32.le_iff_toNat_le
  rw [isPlainChar, Bool.or_eq_true, beq_iff_eq, Bool.and_eq_true, decide_eq_true_eq, decide_eq_true_eq, hblank,
    htilde, Nat.lt_succ_iff]

/-- Whether a header value can be read as plain text. -/
def isPlainValue (s : String) : Bool := s.toList.all isPlainChar

end ReportServer.Http
