import ReportServer.Text.Utf8

/-!
# Faults in UTF-8

Where a byte string stops being UTF-8, for error messages: either some bytes there cannot stand
where they stand, or the string ends in the middle of a character.
-/

namespace ReportServer.Text

/-- Where a byte string stops being UTF-8, and how many bytes are wrong there; none if it ends too soon. -/
structure Utf8Fault where
  index : Nat
  length : Option Nat
deriving DecidableEq, Repr

/-- The sentence that describes the fault. -/
def Utf8Fault.message (f : Utf8Fault) : String :=
  match f.length with
  | some n => "invalid utf-8 sequence of " ++ toString n ++ " bytes from index " ++ toString f.index
  | none => "incomplete utf-8 byte sequence from index " ++ toString f.index

/-- The first fault of bytes that begin at an index. -/
def firstFault (index : Nat) (bytes : List UInt8) : Option Utf8Fault :=
  match bytes with
  | [] => none
  | b :: rest =>
    match sequenceShape b with
    | none => some ⟨index, some 1⟩
    | some (size, lo, hi) =>
      let found := continuing (size - 1) lo hi rest
      if found + 1 = size then firstFault (index + size) (rest.drop found)
      else some ⟨index, if found = rest.length then none else some (found + 1)⟩
termination_by bytes.length
decreasing_by exact Nat.lt_of_le_of_lt (by simp) (Nat.lt_succ_self rest.length)

/-- Read a text from its UTF-8 bytes, or say where they stop being UTF-8. -/
def ofUtf8 (bytes : List UInt8) : Except Utf8Fault String :=
  match ofUtf8? bytes with
  | some s => .ok s
  | none => .error ((firstFault 0 bytes).getD ⟨0, none⟩)

end ReportServer.Text
