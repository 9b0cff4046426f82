/-!
# Blank characters and trimming

A character is blank when it has the Unicode property `White_Space`. The property is a short
table of ranges, so it is written out here; `Char.isWhitespace` knows four of its members.

Trimming is written once, for any test, over lists of characters: drop from the front, and drop
from the front of the reversed list. The text functions built on it say which characters they
strip.
-/

namespace ReportServer.Text

/-- The ranges of the Unicode property `White_Space`, first and last code point. -/
def blankRanges : List (Nat × Nat) :=
  [(0x09, 0x0D), (0x20, 0x20), (0x85, 0x85), (0xA0, 0xA0), (0x1680, 0x1680), (0x2000, 0x200A),
   (0x2028, 0x2029), (0x202F, 0x202F), (0x205F, 0x205F), (0x3000, 0x3000)]

/-- Whether a code point lies in one of the ranges. -/
def inRanges (ranges : List (Nat × Nat)) (n : Nat) : Bool :=
  ranges.any fun r => r.1 ≤ n && n ≤ r.2

/-- Whether a character is Unicode white space. -/
def isBlank (c : Char) : Bool := inRanges blankRanges c.toNat

/-- Drop the characters satisfying `p` from the end. -/
def dropRight (p : Char → Bool) (s : List Char) : List Char := (s.reverse.dropWhile p).reverse

/-- Drop the characters satisfying `p` from both ends. -/
def strip (p : Char → Bool) (s : List Char) : List Char := dropRight p (s.dropWhile p)

/-- Strip blank characters from both ends. -/
def trim (s : String) : String := String.ofList (strip isBlank s.toList)

/-- Drop every `/` at the end. -/
def dropTrailingSlashes (s : String) : String := String.ofList (dropRight (· == '/') s.toList)

theorem dropRight_append_singleton_of_neg {p : Char → Bool} (s : List Char) {c : Char}
    (h : p c = false) : dropRight p (s ++ [c]) = s ++ [c] := by
  simp [dropRight, h]

/-- What is left after dropping from the end is a leading part. -/
theorem dropRight_prefix (p : Char → Bool) (s : List Char) : dropRight p s <+: s := by
  rw [dropRight, ← List.reverse_suffix, List.reverse_reverse]
  exact List.dropWhile_suffix p

theorem strip_infix (p : Char → Bool) (s : List Char) : strip p s <:+: s := by
  have hfront := dropRight_prefix p (s.dropWhile p)
  exact hfront.isInfix.trans (List.dropWhile_suffix p).isInfix

/-- What is stripped off does not stand at the front of what is left, -/
theorem of_head?_strip {p : Char → Bool} {s : List Char} {c : Char} (h : (strip p s).head? = some c) :
    p c = false := by
  obtain ⟨left, hleft⟩ := List.head?_eq_some_iff.mp h
  obtain ⟨right, hright⟩ := dropRight_prefix p (s.dropWhile p)
  have hhead : (s.dropWhile p).head? = some c := by
    rw [← hright, ← strip, hleft]
    rfl
  have hnot := List.head?_dropWhile_not p s
  rwa [hhead] at hnot

/-- and not at its end. -/
theorem of_getLast?_strip {p : Char → Bool} {s : List Char} {c : Char} (h : (strip p s).getLast? = some c) :
    p c = false := by
  rw [strip, dropRight, List.getLast?_reverse] at h
  have hnot := List.head?_dropWhile_not p (s.dropWhile p).reverse
  rwa [h] at hnot

end ReportServer.Text
