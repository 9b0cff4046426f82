/-!
# The fields of a structure

Typed values are read from untyped ones: from JSON documents and from merged settings. Both name
their fields, both accept an array of the fields in order, and both report the first error in the
same order: what was sent is looked at first, field by field, and only then is a field that was
not sent reported. What they do not share is their values and their errors, so those are
parameters here.
-/

namespace ReportServer

/-- The fields of a structure as they were sent. -/
structure Fields (V E : Type) where
  /-- Name and value of each field that was sent, in the order in which they are looked at. -/
  present : List (String × V)
  /-- The error for a field that was not sent. -/
  absent : String → E
  /-- Whether a field that may be null may also be left out. -/
  omittable : Bool
  /-- The error for more fields than the structure has. -/
  excess : Option E
  /-- An error inside a field, as an error of the whole. -/
  locate : String → E → E

namespace Fields

variable {V E α : Type}

/-- The value sent for a field. -/
def find? (f : Fields V E) (name : String) : Option V :=
  (f.present.find? (·.1 == name)).map Prod.snd

/-- Read the value sent for a field. -/
def readAt (f : Fields V E) (name : String) (d : V → Except E α) (v : V) : Except E α :=
  match d v with
  | .ok a => .ok a
  | .error e => .error (f.locate name e)

/-- A reader as a check that forgets the value. -/
def test (d : V → Except E α) (v : V) : Except E Unit :=
  match d v with
  | .ok _ => .ok ()
  | .error e => .error e

/-- Look at every field that was sent, in order, with the check of its name. -/
def check (f : Fields V E) (checks : List (String × (V → Except E Unit))) : Except E Unit :=
  f.present.forM fun (name, v) =>
    match checks.find? (·.1 == name) with
    | some (_, c) => f.readAt name c v
    | none => .ok ()

/-- A field that must be sent. -/
def required (f : Fields V E) (name : String) (d : V → Except E α) : Except E α :=
  match f.find? name with
  | some v => f.readAt name d v
  | none => .error (f.absent name)

/-- A field that has a value of its own when it is not sent. -/
def withDefault (f : Fields V E) (name : String) (d : V → Except E α) (value : α) : Except E α :=
  match f.find? name with
  | some v => f.readAt name d v
  | none => .ok value

/-- A field that may be null, and left out if the form allows it. -/
def optional (f : Fields V E) (name : String) (d : V → Except E (Option α)) :
    Except E (Option α) :=
  match f.find? name with
  | some v => f.readAt name d v
  | none => if f.omittable then .ok none else .error (f.absent name)

/-- Refuse more fields than the structure has. -/
def finish (f : Fields V E) : Except E Unit :=
  match f.excess with
  | some e => .error e
  | none => .ok ()

end Fields

/-- How many elements an array for a structure has, in words. -/
def elementCount (typeName : String) (n : Nat) : String :=
  "struct " ++ typeName ++ " with " ++ toString n ++ (if n = 1 then " element" else " elements")

/-- How one kind of untyped value is read: its fields and its scalars. -/
structure Format (V E : Type) where
  /-- The fields of a structure of a given name and field names. -/
  fields : String → List String → V → Except E (Fields V E)
  string : V → Except E String
  bool : V → Except E Bool
  uint16 : V → Except E UInt16
  uint32 : V → Except E UInt32
  uint64 : V → Except E UInt64
  /-- A text or null. -/
  optionalString : V → Except E (Option String)
  /-- A list of texts. -/
  strings : V → Except E (List String)

end ReportServer
