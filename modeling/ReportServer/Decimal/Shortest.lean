import ReportServer.Decimal.Binary64

/-!
# Shortest decimal text

A finite number is written with the fewest significant digits that read back to it and, among
those, the digits nearest to it. The reals that round to a number form an interval around it, with
its ends included when the significand is even. For one digit, two digits and so on up to
seventeen, the two neighbours of the number on that decimal grid are tried: the first grid with a
neighbour inside the interval wins, of two neighbours inside it the nearer, and the upper one when
they are equally near.

The plain text is positional: no exponent, and no fraction for a whole number. Where very large and
very small numbers are to stay short there is the scientific text too, which has one digit before
the point and an exponent with its sign.
-/

namespace ReportServer.Decimal

/-- A natural number times a power of ten. -/
structure Scaled10 where
  digits : Nat
  exponent : Int
deriving DecidableEq, Repr

/-- The interval of reals that round to a number, in quarters of its last place. -/
structure RoundingInterval where
  lower : Nat
  value : Nat
  upper : Nat
  /-- The binary exponent of one quarter. -/
  quarter : Int
  /-- Whether the two ends belong to the interval. -/
  closed : Bool
deriving Repr

/-- The reals that round to a finite number other than zero. -/
def Binary64.interval (x : Binary64) : RoundingInterval :=
  let m := x.significand
  let atPower := m == twoPow 52 && 1 < x.biased
  { lower := if atPower then 4 * m - 1 else 4 * m - 2
    value := 4 * m
    upper := 4 * m + 2
    quarter := x.exponent - 2
    closed := m % 2 == 0 }

/-- `10 ^ k` as a quotient. -/
def powerOfTen (k : Int) : Nat × Nat := if 0 ≤ k then (tenPow k.toNat, 1) else (1, tenPow (-k).toNat)

/-- The number of digits before the point: `10 ^ (k - 1) ≤ x < 10 ^ k`. -/
def Binary64.magnitude10 (x : Binary64) : Int :=
  let guess : Int := ((x.significand.log2 : Int) + x.exponent) * 30103 / 100000 + 1
  let (p, q) := powerOfTen guess
  let (n, d) := Binary64.scaled x.significand 1 x.exponent
  if n * q < p * d then guess else guess + 1

/-- The neighbours of the number on the grid of multiples of `10 ^ step`, if one rounds to it. -/
def RoundingInterval.onGrid (i : RoundingInterval) (step : Int) : Option Scaled10 :=
  let (p, q) := powerOfTen (-step)
  -- a quarter of the last place is `a / b` steps
  let (a, b) := Binary64.scaled p q i.quarter
  let down := i.value * a / b
  let downIn := if i.closed then i.lower * a ≤ down * b else i.lower * a < down * b
  let upIn := if i.closed then (down + 1) * b ≤ i.upper * a else (down + 1) * b < i.upper * a
  if downIn ∧ (¬ upIn ∨ 2 * (i.value * a - down * b) < b) then some ⟨down, step⟩
  else if upIn then some ⟨down + 1, step⟩
  else none

/-- The shortest decimal that reads back to a finite number other than zero. -/
def Binary64.shortest (x : Binary64) : Scaled10 :=
  let k := x.magnitude10
  let grids := (List.range 17).map fun d => k - (d + 1 : Nat)
  (grids.findSome? x.interval.onGrid).getD ⟨0, 0⟩

/-- A decimal in positional notation, without zeros at the end of its fraction. -/
def Scaled10.positional (d : Scaled10) : List Char :=
  let ds := Nat.toDigits 10 d.digits
  if 0 ≤ d.exponent then ds ++ List.replicate d.exponent.toNat '0'
  else
    let places := (-d.exponent).toNat
    let padded := List.replicate (places + 1 - ds.length) '0' ++ ds
    let whole := padded.take (padded.length - places)
    let fraction := ((padded.drop (padded.length - places)).reverse.dropWhile (· == '0')).reverse
    if fraction.isEmpty then whole else whole ++ '.' :: fraction

/-- The exponent of the leading digit. -/
def Scaled10.leading (d : Scaled10) : Int := (Nat.toDigits 10 d.digits).length - 1 + d.exponent

/-- A decimal in scientific notation: no point after a digit that stands alone. -/
def Scaled10.scientific (d : Scaled10) : List Char :=
  let exponent := (if d.leading < 0 then '-' else '+') :: Nat.toDigits 10 d.leading.natAbs
  match ((Nat.toDigits 10 d.digits).reverse.dropWhile (· == '0')).reverse with
  | [] => ['0']
  | [c] => c :: 'e' :: exponent
  | c :: rest => c :: '.' :: rest ++ 'e' :: exponent

/-- The text of a number. -/
def Binary64.text (x : Binary64) : String :=
  if x.isNaN then "NaN"
  else
    let magnitude :=
      if !x.isFinite then ['i', 'n', 'f']
      else if x.isZero then ['0']
      else x.shortest.positional
    String.ofList (if x.isNegative then '-' :: magnitude else magnitude)

/-- The text of a number with a fraction even if it is whole. -/
def Binary64.textWithPoint (x : Binary64) : String :=
  if x.isFinite ∧ '.' ∉ x.text.toList then x.text ++ ".0" else x.text

/--
The text of a finite number with a fraction if its leading digit is from `10 ^ -5` to `10 ^ 15`, and in
scientific notation otherwise.
-/
def Binary64.compactText (x : Binary64) : String :=
  if x.isZero ∨ -5 ≤ x.shortest.leading ∧ x.shortest.leading ≤ 15 then x.textWithPoint
  else String.ofList ((if x.isNegative then ['-'] else []) ++ x.shortest.scientific)

end ReportServer.Decimal
