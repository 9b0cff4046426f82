import ReportServer.Decode.Error
import ReportServer.Decode.Fields
import ReportServer.Json.Value
import ReportServer.Text.Lowercase

/-!
# Settings before they are typed

The sources of settings are merged into one tree of named values. A value remembers which source
it came from, because an error about it says so. Values are read leniently: variables of the
environment are always texts, so texts stand for numbers and truth values, and numbers and truth
values for texts.
-/

namespace ReportServer.Settings

/-- A single value. -/
inductive Scalar where
  | null
  | bool (value : Bool)
  | int (value : Int)
  | float (value : Decimal.Binary64)
  | str (value : String)
deriving DecidableEq, Repr

/-- A tree of settings. A table that came about by laying sources over each other has no origin. -/
inductive Tree where
  | leaf (origin : Option String) (value : Scalar)
  | list (origin : Option String) (items : List Tree)
  | table (origin : Option String) (members : List (String × Tree))
deriving Repr, Inhabited

/-- Why merged settings cannot be read. -/
inductive ReadError where
  /-- A value of the wrong type, with the path to it and its origin where they are known. -/
  | wrongType (found expected : String) (path : Option String) (origin : Option String)
  /-- A structure that is not as it was asked for. -/
  | structural (e : DecodeError)
deriving DecidableEq, Repr

namespace ReadError

/-- The sentence that describes the error. -/
def message : ReadError → String
  | wrongType found expected path origin =>
    "invalid type: " ++ found ++ ", expected " ++ expected ++
      (match path with | some p => " for key `" ++ p ++ "`" | none => "") ++
      (match origin with | some o => " in " ++ o | none => "")
  | structural e => e.message

/-- The error with a step put in front of its path. Only errors of type carry a path. -/
def under (step : String) : ReadError → ReadError
  | wrongType found expected path origin =>
    let path := match path with
      | none => step
      | some p => if p.toList.head? = some '[' then step ++ p else step ++ "." ++ p
    wrongType found expected (some path) origin
  | e => e

/-- The error with the index of a list in front of its path. -/
def atIndex (i : Nat) : ReadError → ReadError
  | wrongType found expected path origin =>
    wrongType found expected (some ("[" ++ toString i ++ "]" ++ path.getD "")) origin
  | e => e

end ReadError

namespace Scalar

/-- How errors of structure name a value. -/
def describe : Scalar → String
  | null => "unit value"
  | bool b => "boolean `" ++ (if b then "true" else "false") ++ "`"
  | int i => "integer `" ++ toString i ++ "`"
  | float x => "floating point `" ++ x.textWithPoint ++ "`"
  | str s => "string " ++ Text.quoted s

/-- How errors of type name a value. -/
def describeTyped : Scalar → String
  | int i => "64-bit integer `" ++ toString i ++ "`"
  | float x => "floating point `" ++ x.text ++ "`"
  | v => v.describe

end Scalar

namespace Tree

/-- How errors of structure name a tree. -/
def describe : Tree → String
  | leaf _ v => v.describe
  | list _ _ => "sequence"
  | table _ _ => "map"

/-- Where a tree came from, if it says so. -/
def origin : Tree → Option String
  | leaf o _ => o
  | list o _ => o
  | table o _ => o

/-- The error for a tree that is not what was asked for. -/
def mismatch {α : Type} (t : Tree) (expected : String) : Except ReadError α :=
  let found := match t with
    | leaf _ v => v.describeTyped
    | t => t.describe
  .error (.wrongType found expected none t.origin)

/-! ## Lenient reading -/

/-- The words for true. -/
def isTrueWord (s : String) : Bool := s == "true" || s == "on" || s == "yes"

/-- The words for false. -/
def isFalseWord (s : String) : Bool := s == "false" || s == "off" || s == "no"

/-- The greatest number of 64 bits. -/
def maxUInt64 : Nat := UInt64.size - 1

/-- A decimal number of 64 bits without a sign, or with a plus. -/
def parseNat? (s : String) : Option Nat :=
  let ds := match s.toList with
    | '+' :: rest => rest
    | ds => ds
  if ds.isEmpty ∨ !ds.all Char.isDigit then none
  else
    let n := ds.foldl (fun n c => n * 10 + (c.toNat - 48)) 0
    if n ≤ maxUInt64 then some n else none

/-- A text. -/
def string : Tree → Except ReadError String
  | leaf _ (.str s) => .ok s
  | leaf _ (.bool b) => .ok (if b then "true" else "false")
  | leaf _ (.int i) => .ok (toString i)
  | leaf _ (.float x) => .ok x.text
  | t => t.mismatch "a string"

/-- A truth value: itself, a number other than zero, or one of the words, in any case. -/
def bool : Tree → Except ReadError Bool
  | leaf _ (.bool b) => .ok b
  | leaf _ (.int i) => .ok (i != 0)
  | leaf _ (.float x) => .ok (!x.isZero)
  | leaf o (.str s) =>
    let word := Text.lowercase s
    if word = "1" ∨ isTrueWord word then .ok true
    else if word = "0" ∨ isFalseWord word then .ok false
    else mismatch (leaf o (.str word)) "a boolean"
  | t => t.mismatch "a boolean"

/-- A number: itself, a truth value, a fraction rounded, a text in decimal, or one of the words. -/
def nat : Tree → Except ReadError Nat
  | leaf o (.int i) =>
    if 0 ≤ i then .ok i.toNat
    else mismatch (leaf o (.int i)) "an unsigned 64 bit or less integer"
  | leaf _ (.bool b) => .ok (if b then 1 else 0)
  | leaf _ (.float x) =>
    if x.isNaN ∨ x.isNegative then .ok 0
    else if !x.isFinite then .ok maxUInt64
    else .ok (min x.roundMagnitude maxUInt64)
  | leaf o (.str s) =>
    let word := Text.lowercase s
    if isTrueWord word then .ok 1
    else if isFalseWord word then .ok 0
    else
      match parseNat? s with
      | some n => .ok n
      | none => mismatch (leaf o (.str s)) "an integer"
  | t => t.mismatch "an integer"

/-- A number below a bound, with the words for its type. -/
def natBelow (bound : Nat) (name : String) (t : Tree) : Except ReadError Nat := do
  let n ← t.nat
  if n < bound then return n
  else throw (.wrongType ("64-bit unsigned integer `" ++ toString n ++ "`") name none none)

/-- A text or null. -/
def optionalString : Tree → Except ReadError (Option String)
  | leaf _ .null => .ok none
  | t => t.string.map some

/-- The texts of a list from index `i` on. -/
def stringsFrom (i : Nat) : List Tree → Except ReadError (List String)
  | [] => .ok []
  | t :: rest => do
    let s ← match t.string with
      | .ok s => .ok s
      | .error e => .error (e.atIndex i)
    let more ← stringsFrom (i + 1) rest
    return s :: more

/-- A list of texts. -/
def strings : Tree → Except ReadError (List String)
  | list _ items => stringsFrom 0 items
  | t => .error (.structural (.invalidType t.describe "a sequence"))

/-- Take a tree apart into the fields of a structure. More items than fields are ignored. -/
def fields (typeName : String) (names : List String) : Tree → Except ReadError (Fields Tree ReadError)
  | table _ members =>
    .ok ⟨members, fun name => .structural (.missingField name), true, none, ReadError.under⟩
  | list _ items =>
    .ok ⟨names.zip items,
      fun _ => .structural (.invalidLength items.length (elementCount typeName names.length)),
      false, none, fun name e => e.atIndex (names.idxOf name)⟩
  | t => .error (.structural (.invalidType t.describe ("struct " ++ typeName)))

/-- Merged settings as a format of typed values. -/
def format : Format Tree ReadError where
  fields := fields
  string := string
  bool := bool
  uint16 t := (t.natBelow UInt16.size "an unsigned 16 bit integer").map UInt16.ofNat
  uint32 t := (t.natBelow UInt32.size "an unsigned 32 bit integer").map UInt32.ofNat
  uint64 t := t.nat.map UInt64.ofNat
  optionalString := optionalString
  strings := strings

end Tree

end ReportServer.Settings
