import ReportServer.Decimal.Power

/-!
# Binary floating point

A 64-bit floating point number is held as its bits, so that what is said about it is said about
a natural number: a sign, an exponent and a fraction. A finite number is `m * 2 ^ e` with its sign.
Rounding is written once, from a quotient of natural numbers, and everything that makes a number
(integers, decimals, products, the 32-bit format) goes through it or reads the fields.
-/

namespace ReportServer.Decimal

/-- The bits of a 64-bit floating point number. -/
structure Binary64 where
  bits : UInt64
deriving DecidableEq, Repr

namespace Binary64

/-- The sign bit. -/
def isNegative (x : Binary64) : Bool := twoPow 63 ≤ x.bits.toNat

/-- The eleven exponent bits. -/
def biased (x : Binary64) : Nat := x.bits.toNat / twoPow 52 % 2048

/-- The fifty-two fraction bits. -/
def fraction (x : Binary64) : Nat := x.bits.toNat % twoPow 52

/-- Neither infinite nor not-a-number. -/
def isFinite (x : Binary64) : Bool := x.biased != 2047

/-- Not a number. -/
def isNaN (x : Binary64) : Bool := x.biased == 2047 && x.fraction != 0

/-- The significand of a finite number, with the leading bit of a normal one. -/
def significand (x : Binary64) : Nat := if x.biased = 0 then x.fraction else x.fraction + twoPow 52

/-- The exponent of a finite number: its magnitude is `significand * 2 ^ exponent`. -/
def exponent (x : Binary64) : Int := ((max x.biased 1 : Nat) : Int) - 1075

/-- Either zero. -/
def isZero (x : Binary64) : Bool := x.biased == 0 && x.fraction == 0

/-- Put the sign bit in front of the other sixty-three. -/
def withSign (negative : Bool) (magnitude : Nat) : Binary64 :=
  ⟨UInt64.ofNat (if negative then magnitude + twoPow 63 else magnitude)⟩

/-- The bits of infinity without a sign. -/
def infinityBits : Nat := 2047 * twoPow 52

/-- A quotient of natural numbers rounded to the nearest one, halves to even. -/
def divNearestEven (num den : Nat) : Nat :=
  let q := num / den
  let r := 2 * (num % den)
  if r < den then q else if den < r then q + 1 else q + q % 2

/-- `num / den * 2 ^ shift` as a quotient of natural numbers. -/
def scaled (num den : Nat) (shift : Int) : Nat × Nat :=
  if 0 ≤ shift then (num * twoPow shift.toNat, den) else (num, den * twoPow (-shift).toNat)

/--
The exponent at which `num / den * 2 ^ shift` has a significand of fifty-three bits, or the least
exponent there is.
-/
def targetExponent (num den : Nat) (shift : Int) : Int :=
  let guess : Int := (num.log2 : Int) - den.log2 - 52 + shift
  let (n, d) := scaled num den (shift - guess)
  max (if n < d * twoPow 52 then guess - 1 else guess) (-1074)

/--
The number nearest to `num / den * 2 ^ shift` with the given sign; of two nearest ones the one
with the even significand. Beyond the greatest finite number it is infinity.
-/
def ofQuotient (negative : Bool) (num den : Nat) (shift : Int) : Binary64 :=
  if num = 0 then withSign negative 0
  else
    let e := targetExponent num den shift
    let (n, d) := scaled num den (shift - e)
    let m := divNearestEven n d
    -- a significand of 2 ^ 53 carries into the exponent by itself
    let magnitude := if m < twoPow 52 then m else (e + 1074).toNat * twoPow 52 + m
    withSign negative (min magnitude infinityBits)

/-- The number nearest to an integer. -/
def ofInt (i : Int) : Binary64 := ofQuotient (i < 0) i.natAbs 1 0

/-- The product of two finite numbers, rounded. -/
def mul (x y : Binary64) : Binary64 :=
  ofQuotient (x.isNegative != y.isNegative) (x.significand * y.significand) 1 (x.exponent + y.exponent)

/-- The quotient of two finite numbers, rounded; the divisor is not zero. -/
def div (x y : Binary64) : Binary64 :=
  ofQuotient (x.isNegative != y.isNegative) x.significand y.significand (x.exponent - y.exponent)

/-- The number with the opposite sign. -/
def neg (x : Binary64) : Binary64 := ⟨x.bits ^^^ 0x8000000000000000⟩

/-- The magnitude of a finite number rounded to a natural number, halves away from zero. -/
def roundMagnitude (x : Binary64) : Nat :=
  let (n, d) := scaled x.significand 1 x.exponent
  (2 * n + d) / (2 * d)

/-- The number with the same value as one in the 32-bit format, given by its bits. -/
def ofBinary32 (bits : UInt32) : Binary64 :=
  let n : Nat := bits.toNat
  let negative : Bool := twoPow 31 ≤ n
  let biased : Nat := n / twoPow 23 % 256
  let fraction : Nat := n % twoPow 23
  if biased = 255 then withSign negative (infinityBits + fraction * twoPow 29)
  else if biased = 0 then ofQuotient negative fraction 1 (-149)
  else ofQuotient negative (fraction + twoPow 23) 1 ((biased : Int) - 150)

end Binary64

end ReportServer.Decimal
