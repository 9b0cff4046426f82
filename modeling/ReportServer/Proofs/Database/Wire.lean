import ReportServer.Text.Utf8

/-!
# Numbers on the wire

The database sends numbers as byte strings, most significant byte first, signed ones in two's
complement. The width is the length of the string. A number that fits into its width comes back as
the number it was.
-/

namespace ReportServer.Database

/-- The number of a byte string. -/
def natOfBytes (bytes : List UInt8) : Nat := bytes.foldl (fun n b => n * 256 + b.toNat) 0

/-- How many numbers a byte string of a width can tell apart. -/
def rangeOf (width : Nat) : Nat := Nat.pow 256 width

/-- The signed number of a byte string. -/
def intOfBytes (bytes : List UInt8) : Int := (natOfBytes bytes : Int).bmod (rangeOf bytes.length)

/-- A number as a byte string of a width; what does not fit is cut off at the front. -/
def bytesOfNat : Nat → Nat → List UInt8
  | 0, _ => []
  | width + 1, n => bytesOfNat width (n / 256) ++ [UInt8.ofNat n]

/-- A signed number as a byte string of a width. -/
def bytesOfInt (width : Nat) (i : Int) : List UInt8 := bytesOfNat width (i % rangeOf width).toNat

theorem rangeOf_pos (width : Nat) : 0 < rangeOf width := Nat.pow_pos (by decide)

theorem rangeOf_succ (width : Nat) : rangeOf (width + 1) = 256 * rangeOf width := Nat.mul_comm ..

@[simp] theorem length_bytesOfNat (width n : Nat) : (bytesOfNat width n).length = width := by
  induction width generalizing n with
  | zero => rfl
  | succ width ih => simp [bytesOfNat, ih]

@[simp] theorem length_bytesOfInt (width : Nat) (i : Int) : (bytesOfInt width i).length = width :=
  length_bytesOfNat _ _

theorem natOfBytes_append (bytes : List UInt8) (b : UInt8) :
    natOfBytes (bytes ++ [b]) = natOfBytes bytes * 256 + b.toNat := by
  simp [natOfBytes]

theorem natOfBytes_bytesOfNat (width n : Nat) :
    natOfBytes (bytesOfNat width n) = n % rangeOf width := by
  induction width generalizing n with
  | zero => simp [bytesOfNat, natOfBytes, rangeOf, Nat.mod_one]
  | succ width ih =>
      rw [bytesOfNat, natOfBytes_append, ih, rangeOf_succ, Nat.mod_mul, UInt8.toNat_ofNat']
      omega

/-- A number that fits is read as what it was. -/
theorem natOfBytes_bytesOfNat_of_lt {width n : Nat} (h : n < rangeOf width) :
    natOfBytes (bytesOfNat width n) = n := by
  rw [natOfBytes_bytesOfNat, Nat.mod_eq_of_lt h]

/-- `Fits width i`: a byte string of the width can hold the signed number. -/
def Fits (width : Nat) (i : Int) : Prop := -(rangeOf width / 2 : Int) ≤ i ∧ i < (rangeOf width + 1 : Int) / 2

/-- A signed number that fits is read as what it was. -/
theorem intOfBytes_bytesOfInt {width : Nat} {i : Int} (h : Fits width i) : intOfBytes (bytesOfInt width i) = i := by
  have hpos : (0 : Int) < rangeOf width := Int.natCast_pos.mpr (rangeOf_pos width)
  have hcast : (((i % rangeOf width).toNat : Nat) : Int) = i % rangeOf width :=
    Int.toNat_of_nonneg (Int.emod_nonneg i (Int.ne_of_gt hpos))
  have hlt : (i % rangeOf width).toNat < rangeOf width := by
    have := Int.emod_lt_of_pos i hpos
    omega
  rw [intOfBytes, length_bytesOfInt, bytesOfInt, natOfBytes_bytesOfNat_of_lt hlt, hcast, Int.emod_bmod]
  exact Int.bmod_eq_of_le h.1 h.2

theorem fits_int16 (i : Int16) : Fits 2 i.toInt :=
  ⟨i.le_toInt, i.toInt_lt⟩

theorem fits_int32 (i : Int32) : Fits 4 i.toInt :=
  ⟨i.le_toInt, i.toInt_lt⟩

theorem fits_int64 (i : Int64) : Fits 8 i.toInt :=
  ⟨i.le_toInt, i.toInt_lt⟩

end ReportServer.Database
