import ReportServer.Calendar
import Mathlib.Algebra.Group.Nat.Defs

/-!
# How dates and moments print

A date is digits, hyphens and perhaps a sign, whatever the date is. The server holds dates of a range of years
and nothing else, so the texts of its dates and moments are short.
-/

namespace ReportServer

/-! ## Characters -/

namespace Calendar

theorem isDigit_of_mem_padded {width n : Nat} {c : Char} (h : c ∈ padded width n) : c.isDigit = true := by
  rcases List.mem_append.mp h with h | h
  · rw [List.eq_of_mem_replicate h]
    rfl
  · exact Nat.isDigit_of_mem_toDigits (by decide) (by decide) h

theorem of_mem_yearChars {y : Int} {c : Char} (h : c ∈ yearChars y) :
    c.isDigit = true ∨ c ∈ ['-', '+'] := by
  unfold yearChars at h
  split at h
  · rcases List.mem_cons.mp h with rfl | h
    · exact Or.inr (by decide)
    · exact Or.inl (isDigit_of_mem_padded h)
  · split at h
    · rcases List.mem_cons.mp h with rfl | h
      · exact Or.inr (by decide)
      · exact Or.inl (isDigit_of_mem_padded h)
    · exact Or.inl (isDigit_of_mem_padded h)

theorem length_padded_le {width n k : Nat} (hk : 0 < k) (hwidth : width ≤ k) (h : n < 10 ^ k) :
    (padded width n).length ≤ k := by
  have hdigits : (Nat.toDigits 10 n).length ≤ k := (Nat.length_toDigits_le_iff (by decide) hk).mpr h
  rw [padded, List.length_append, List.length_replicate]
  omega

end Calendar

open Calendar

/-- A stamp is digits, an underscore and perhaps a sign. -/
theorem Moment.of_mem_stamp {m : Moment} {c : Char} (h : c ∈ m.stamp) :
    c.isDigit = true ∨ c ∈ ['-', '_', '+'] := by
  simp only [stamp, List.mem_append, List.mem_cons] at h
  rcases h with ((((hyear | h) | h) | rfl | h) | h) | h
  · have hsigns : ['-', '+'] ⊆ ['-', '_', '+'] := by decide
    exact (of_mem_yearChars hyear).imp_right fun h => hsigns h
  · exact Or.inl (isDigit_of_mem_padded h)
  · exact Or.inl (isDigit_of_mem_padded h)
  · exact Or.inr (by decide)
  · exact Or.inl (isDigit_of_mem_padded h)
  · exact Or.inl (isDigit_of_mem_padded h)
  · exact Or.inl (isDigit_of_mem_padded h)

/-! ## Lengths -/

/-- A date that the server can hold. -/
structure Date.Held (d : Date) : Prop where
  year : Date.earliest.year ≤ d.year ∧ d.year ≤ Date.latest.year
  month : 1 ≤ d.month ∧ d.month ≤ 12
  day : 1 ≤ d.day ∧ d.day ≤ 31

/-- A moment that the server can hold. -/
structure Moment.Held (m : Moment) : Prop where
  date : m.date.Held
  hour : m.hour < 24
  minute : m.minute < 60
  second : m.second < 60
  /-- In a leap second there are two seconds' worth of them. -/
  nanosecond : m.nanosecond < 2 * nanosPerSecond

theorem Calendar.length_yearChars_le {y : Int} (h : y.natAbs < 10 ^ 6) : (yearChars y).length ≤ 7 := by
  have hpadded : (padded 4 y.natAbs).length ≤ 6 := length_padded_le (by decide) (by decide) h
  unfold yearChars
  split
  · exact Nat.succ_le_succ hpadded
  · split
    · exact Nat.succ_le_succ hpadded
    · exact Nat.le_succ_of_le hpadded

theorem Date.Held.length_chars_le {d : Date} (h : d.Held) : d.chars.length ≤ 13 := by
  obtain ⟨hfirst, hlast⟩ := h.year
  have hyear : (yearChars d.year).length ≤ 7 := length_yearChars_le (by
    simp only [Date.earliest, Date.latest] at hfirst hlast
    omega)
  have hmonth : (padded 2 d.month).length ≤ 2 :=
    length_padded_le (by decide) (by decide) (by have := h.month; omega)
  have hday : (padded 2 d.day).length ≤ 2 :=
    length_padded_le (by decide) (by decide) (by have := h.day; omega)
  simp only [Date.chars, List.length_append, List.length_cons]
  omega

theorem Moment.Held.length_chars_le {m : Moment} (h : m.Held) : m.chars.length ≤ 22 := by
  have hdate := h.date.length_chars_le
  have hsecond : m.shownSecond < 10 ^ 2 := by
    have := h.second
    have := h.nanosecond
    simp only [Moment.shownSecond, nanosPerSecond] at *
    omega
  have hh : (padded 2 m.hour).length ≤ 2 :=
    length_padded_le (by decide) (by decide) (by have := h.hour; omega)
  have hm : (padded 2 m.minute).length ≤ 2 :=
    length_padded_le (by decide) (by decide) (by have := h.minute; omega)
  have hs : (padded 2 m.shownSecond).length ≤ 2 := length_padded_le (by decide) (by decide) hsecond
  simp only [Moment.chars, List.length_append, List.length_cons]
  omega

end ReportServer
