import ReportServer.Text.Hex
import ReportServer.Text.Split

/-!
# Tables of characters

A property of characters is kept as a table of ranges of code points, in order and apart from each
other, and found in it by halving. A table is written as lines of entries with blanks between them.
An entry is a code point in hexadecimal, or the first and the last one of a range; between them
stands a hyphen, or a slash if only every second one belongs to it. What follows an equals sign is
the value that the property has there.
-/

namespace ReportServer.Text

/-- The code points from the first to the last, every `step`-th of them, and their value. -/
structure CodeRange where
  first : Nat
  last : Nat
  step : Nat
  value : List Char
deriving Repr

namespace CodeRange

/-- Whether a code point is in the range. -/
def holds (r : CodeRange) (n : Nat) : Bool :=
  r.first ≤ n && n ≤ r.last && (n - r.first) % r.step == 0

/-- Read an entry of a table. -/
def ofEntry (s : List Char) : CodeRange :=
  let isMark (c : Char) := c == '-' || c == '/' || c == '='
  let first := s.takeWhile (!isMark ·)
  let rest := s.drop first.length
  let between := rest.takeWhile (· != '=')
  let value := (rest.drop between.length).drop 1
  match between with
  | '-' :: last => ⟨hexNumber first, hexNumber last, 1, value⟩
  | '/' :: last => ⟨hexNumber first, hexNumber last, 2, value⟩
  | _ => ⟨hexNumber first, hexNumber first, 1, value⟩

end CodeRange

/-- A table of ranges, in order and apart from each other. -/
structure CodeTable where
  ranges : Array CodeRange

namespace CodeTable

/-- Read the lines of a table. -/
def ofLines (lines : List String) : CodeTable :=
  ⟨(lines.flatMap fun line => (splitWhere (· == ' ') line.toList).map CodeRange.ofEntry).toArray⟩

/-- How many of the ranges begin at a code point or before it, if the number is between two bounds. -/
def countUpTo (t : CodeTable) (n : Nat) (low high : Nat) : Nat :=
  if low < high then
    let middle := (low + high) / 2
    if t.ranges[middle]?.any (·.first ≤ n) then t.countUpTo n (middle + 1) high
    else t.countUpTo n low middle
  else low
termination_by high - low
decreasing_by all_goals omega

/-- The range that holds a code point: if one does, it is the last of those that begin there or before. -/
def find? (t : CodeTable) (n : Nat) : Option CodeRange :=
  match t.countUpTo n 0 t.ranges.size with
  | 0 => none
  | k + 1 => t.ranges[k]?.filter (·.holds n)

/-- The value of a character, if the table has one. -/
def value? (t : CodeTable) (c : Char) : Option (List Char) := (t.find? c.toNat).map CodeRange.value

/-- Whether a character is in the table. -/
def contains (t : CodeTable) (c : Char) : Bool := (t.find? c.toNat).isSome

end CodeTable

end ReportServer.Text
