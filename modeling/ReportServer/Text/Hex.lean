/-!
# Hexadecimal digits

Digits of base 16 in either case, and the numbers they stand for.
-/

namespace ReportServer.Text

/-- The value of a hexadecimal digit. -/
def hexDigit? (c : Char) : Option Nat :=
  if c.isDigit then some (c.toNat - 48)
  else if 'a' ≤ c ∧ c ≤ 'f' then some (c.toNat - 87)
  else if 'A' ≤ c ∧ c ≤ 'F' then some (c.toNat - 55)
  else none

/-- The number that hexadecimal digits stand for; anything else among them counts as nothing. -/
def hexNumber (s : List Char) : Nat := s.foldl (fun n c => n * 16 + (hexDigit? c).getD 0) 0

end ReportServer.Text
