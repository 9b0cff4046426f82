/-!
# UTF-8

Text leaves the server as bytes and comes in as bytes. Encoding is core's; decoding is written
here in two forms over byte lists: a strict one, which refuses text that is not UTF-8, and a
forgiving one, which puts U+FFFD in place of each maximal run of bytes that starts a character
but does not finish it.
-/

namespace ReportServer.Text

/-- The UTF-8 bytes of a text. -/
def utf8 (s : String) : List UInt8 := s.toUTF8.data.toList

/-- Read a text from its UTF-8 bytes, if they are UTF-8. -/
def ofUtf8? (bytes : List UInt8) : Option String := String.fromUTF8? ⟨bytes.toArray⟩

/-- Bytes as the characters whose numbers they are. -/
def ofBytes (bytes : List UInt8) : List Char := bytes.map fun b => Char.ofNat b.toNat

/-- The bytes that characters stand for. -/
def toBytes (s : List Char) : List UInt8 := s.map fun c => UInt8.ofNat c.toNat

/-- How many bytes a leading byte announces, and the range its second byte must lie in. -/
def sequenceShape (b : UInt8) : Option (Nat × Nat × Nat) :=
  let n := b.toNat
  if n < 0x80 then some (1, 0x80, 0xBF)
  else if n < 0xC2 then none
  else if n < 0xE0 then some (2, 0x80, 0xBF)
  else if n = 0xE0 then some (3, 0xA0, 0xBF)
  else if n = 0xED then some (3, 0x80, 0x9F)
  else if n < 0xF0 then some (3, 0x80, 0xBF)
  else if n = 0xF0 then some (4, 0x90, 0xBF)
  else if n < 0xF4 then some (4, 0x80, 0xBF)
  else if n = 0xF4 then some (4, 0x80, 0x8F)
  else none

/--
How many of the bytes after a leading byte continue it: at most `want`, the first of them in
`[lo, hi]` and the others in `[0x80, 0xBF]`.
-/
def continuing (want lo hi : Nat) : List UInt8 → Nat
  | [] => 0
  | b :: rest =>
    match want with
    | 0 => 0
    | want + 1 => if lo ≤ b.toNat ∧ b.toNat ≤ hi then continuing want 0x80 0xBF rest + 1 else 0

/-- The code point spelled by a leading byte and its continuation bytes. -/
def codePoint (lead : UInt8) (more : List UInt8) : Nat :=
  let bits := match more.length with
    | 0 => lead.toNat
    | 1 => lead.toNat % 0x20
    | 2 => lead.toNat % 0x10
    | _ => lead.toNat % 0x08
  more.foldl (fun n b => n * 64 + b.toNat % 64) bits

/-- Read bytes as UTF-8, with U+FFFD in place of each broken sequence. -/
def lossyChars (bytes : List UInt8) : List Char :=
  match bytes with
  | [] => []
  | b :: rest =>
    match sequenceShape b with
    | none => '\uFFFD' :: lossyChars rest
    | some (size, lo, hi) =>
      let found := continuing (size - 1) lo hi rest
      let c := if found + 1 = size then Char.ofNat (codePoint b (rest.take found)) else '\uFFFD'
      c :: lossyChars (rest.drop found)
termination_by bytes.length
decreasing_by all_goals (simp; try omega)

/-- Read bytes as text, whatever they hold. -/
def ofUtf8Lossy (bytes : List UInt8) : String := String.ofList (lossyChars bytes)

end ReportServer.Text
