import ReportServer.Decode.Error
import ReportServer.Decode.Fields
import ReportServer.Json.Value

/-!
# Reading typed values from JSON

A structure may be sent as an object or as an array of its fields in order. Members of an object
are looked at by name in sorted order, and the first that does not fit is the error; only then is a
missing field reported, the first in the order of declaration. Unknown members are ignored.
Elements of an array are looked at in order; a missing element and one too many are both errors of
length.
-/

namespace ReportServer.Json

/-- A way to read a value of a type. -/
abbrev Decoder (α : Type) := Value → Except DecodeError α

namespace Decoder

/-- A text. -/
def string : Decoder String
  | .str s => .ok s
  | v => .error (.invalidType v.describe "a string")

/-- A truth value. -/
def bool : Decoder Bool
  | .bool b => .ok b
  | v => .error (.invalidType v.describe "a boolean")

/-- An integer between two bounds, called `name` in errors. -/
def intBetween (lo hi : Int) (name : String) : Decoder Int
  | .int i =>
    if lo ≤ i ∧ i ≤ hi then .ok i else .error (.invalidValue (Value.int i).describe name)
  | v => .error (.invalidType v.describe name)

/-- A signed 64-bit integer. -/
def int64 : Decoder Int64 := fun v => (intBetween Int64.minValue.toInt Int64.maxValue.toInt "i64" v).map Int64.ofInt

/-- An unsigned 16-bit integer. -/
def uint16 : Decoder UInt16 := fun v => (intBetween 0 65535 "u16" v).map (UInt16.ofNat ·.toNat)

/-- An unsigned 32-bit integer. -/
def uint32 : Decoder UInt32 :=
  fun v => (intBetween 0 (UInt32.size - 1) "u32" v).map (UInt32.ofNat ·.toNat)

/-- An unsigned 64-bit integer. -/
def uint64 : Decoder UInt64 :=
  fun v => (intBetween 0 (UInt64.size - 1) "u64" v).map (UInt64.ofNat ·.toNat)

/-- A value or null. -/
def nullable {α : Type} (d : Decoder α) : Decoder (Option α)
  | .null => .ok none
  | v => (d v).map some

/-- An array of values. -/
def list {α : Type} (d : Decoder α) : Decoder (List α)
  | .arr items => items.mapM d
  | v => .error (.invalidType v.describe "a sequence")

/-- Take a value apart into the fields of a structure. -/
def fields (typeName : String) (names : List String) : Decoder (Fields Value DecodeError)
  | .obj members => .ok ⟨canonicalMembers members, .missingField, true, none, fun _ e => e⟩
  | .arr items =>
    let tooMany : Option DecodeError :=
      if names.length < items.length then
        some (.invalidLength items.length "fewer elements in array")
      else none
    .ok ⟨names.zip items, fun _ => .invalidLength items.length (elementCount typeName names.length),
      false, tooMany, fun _ e => e⟩
  | v => .error (.invalidType v.describe ("struct " ++ typeName))

end Decoder

/-- JSON as a format of typed values. -/
def format : Format Value DecodeError where
  fields := Decoder.fields
  string := Decoder.string
  bool := Decoder.bool
  uint16 := Decoder.uint16
  uint32 := Decoder.uint32
  uint64 := Decoder.uint64
  optionalString := Decoder.string.nullable
  strings := Decoder.string.list

end ReportServer.Json
