import ReportServer.Text.Utf8

/-!
# Percent encoding

Bytes that may not stand in an address are written as a percent sign and two upper-case
hexadecimal digits. Which bytes those are depends on the part of the address, so encoding takes
the set as a parameter. Decoding leaves a percent sign alone that no two digits follow.
-/

namespace ReportServer.Net

/-- An upper-case hexadecimal digit. -/
def upperHex (n : Nat) : Char := Char.ofNat (if n < 10 then 48 + n else 55 + n)

/-- A byte as a percent sign and two digits. -/
def percentByte (b : UInt8) : List Char :=
  ['%', upperHex (b.toNat / 16), upperHex (b.toNat % 16)]

/-- Encode a text: bytes beyond ASCII and those in `set` are escaped. -/
def percentEncode (set : Char → Bool) (s : String) : List Char :=
  s.toList.flatMap fun c =>
    if c.toNat < 0x80 ∧ !set c then [c] else (Text.utf8 (String.singleton c)).flatMap percentByte

/-- The value of the byte of a hexadecimal digit. -/
def hexByteValue (b : UInt8) : Option Nat :=
  let n := b.toNat
  if 48 ≤ n ∧ n ≤ 57 then some (n - 48)
  else if 97 ≤ n ∧ n ≤ 102 then some (n - 87)
  else if 65 ≤ n ∧ n ≤ 70 then some (n - 55)
  else none

/-- Decode the percent signs of a byte string. -/
def percentDecode : List UInt8 → List UInt8
  | [] => []
  | b :: rest =>
    match rest with
    | x :: y :: rest' =>
      match b.toNat == 0x25, hexByteValue x, hexByteValue y with
      | true, some hi, some lo => UInt8.ofNat (hi * 16 + lo) :: percentDecode rest'
      | _, _, _ => b :: percentDecode (x :: y :: rest')
    | [y] => [b, y]
    | [] => [b]

/-- Bytes without a percent sign are left alone. -/
theorem percentDecode_of_forall_ne {bytes : List UInt8} (h : ∀ b ∈ bytes, b.toNat ≠ 0x25) :
    percentDecode bytes = bytes := by
  fun_induction percentDecode bytes with
  | case1 => rfl
  | case2 b x y rest hi hx lo hy hb ih =>
      exact absurd (beq_iff_eq.mp hb) (h b List.mem_cons_self)
  | case3 b x y rest hnot ih => rw [ih fun c hc => h c (List.mem_cons_of_mem b hc)]
  | case4 => rfl
  | case5 => rfl

/-- The bytes of a text with its percent signs decoded. -/
def percentDecoded (s : String) : List UInt8 := percentDecode (Text.utf8 s)

/-- Controls below the blank, and the delete character. -/
def isControl (c : Char) : Bool := c.toNat < 0x20 || c.toNat == 0x7F

/-- What is escaped in a fragment. -/
def fragmentSet (c : Char) : Bool :=
  isControl c || c == ' ' || c == '"' || c == '<' || c == '>' || c.toNat == 0x60

/-- What is escaped in a path. -/
def pathSet (c : Char) : Bool :=
  fragmentSet c || c == '#' || c == '?' || c == '\x7b' || c == '\x7d'

/-- What is escaped in a query, with the quote that only some schemes escape. -/
def querySet (escapeQuote : Bool) (c : Char) : Bool :=
  isControl c || c == ' ' || c == '"' || c == '#' || c == '<' || c == '>' ||
    (escapeQuote && c == '\'')

end ReportServer.Net
