/-!
# Powers of two and ten

The weights that binary and decimal places have.
-/

namespace ReportServer.Decimal

/-- The weight of a binary place: two to the power of `n`. -/
def twoPow (n : Nat) : Nat := Nat.pow 2 n

/-- The weight of a decimal place: ten to the power of `n`. -/
def tenPow (n : Nat) : Nat := Nat.pow 10 n

theorem twoPow_pos (n : Nat) : 0 < twoPow n := Nat.pow_pos (by decide)

theorem tenPow_pos (n : Nat) : 0 < tenPow n := Nat.pow_pos (by decide)

end ReportServer.Decimal
