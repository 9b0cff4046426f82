import ReportServer.Decimal.Shortest
import ReportServer.Text.Quoted

/-!
# JSON values

Numbers keep what they were written as: a whole number that fits 64 bits is an integer, all others
are floating point. Objects keep their members in the order in which they were written, repeated
names included; `Value.canonical` is the view in which names are sorted and the last of several
equal names counts, and it is the view all decoding starts from.
-/

namespace ReportServer.Json

/-- A JSON value. -/
inductive Value where
  | null
  | bool (value : Bool)
  | int (value : Int)
  | float (value : Decimal.Binary64)
  | str (value : String)
  | arr (items : List Value)
  | obj (members : List (String × Value))
deriving Repr, Inhabited

/-- Insert a member into a list sorted by name; a member of that name gives way. -/
def insertMember {α : Type} (name : String) (value : α) : List (String × α) → List (String × α)
  | [] => [(name, value)]
  | (n, v) :: rest =>
    if name < n then (name, value) :: (n, v) :: rest
    else if name = n then (name, value) :: rest
    else (n, v) :: insertMember name value rest

/-- Members sorted by name, the last of several equal names kept. -/
def canonicalMembers {α : Type} (members : List (String × α)) : List (String × α) :=
  members.foldl (fun sorted m => insertMember m.1 m.2 sorted) []

/-- The first member of a name. -/
def lookup? {α : Type} (name : String) (members : List (String × α)) : Option α :=
  (members.find? (·.1 == name)).map Prod.snd

mutual

/-- A value with the members of every object sorted and the last of equal names kept. -/
def Value.canonical : Value → Value
  | .arr items => .arr (canonicalItems items)
  | .obj members => .obj (canonicalMembers (canonicalEach members))
  | v => v

/-- The items of an array in canonical form. -/
def canonicalItems : List Value → List Value
  | [] => []
  | v :: rest => v.canonical :: canonicalItems rest

/-- The values of members in canonical form. -/
def canonicalEach : List (String × Value) → List (String × Value)
  | [] => []
  | (name, v) :: rest => (name, v.canonical) :: canonicalEach rest

end

namespace Value

/-- The member of a name of an object, the last one if there are several. -/
def get? (v : Value) (name : String) : Option Value :=
  match v with
  | obj ms => lookup? name ms.reverse
  | _ => none

/-- How messages name a value that was not expected. -/
def describe : Value → String
  | null => "null"
  | bool b => "boolean `" ++ (if b then "true" else "false") ++ "`"
  | int i => "integer `" ++ toString i ++ "`"
  | float x => "floating point `" ++ x.compactText ++ "`"
  | str s => "string " ++ Text.quoted s
  | arr _ => "sequence"
  | obj _ => "map"

end Value

/-! ## Writing -/

/-- A digit of a control escape, in lower case. -/
def hexDigitChar (n : Nat) : Char := Nat.digitChar (n % 16)

/-- How one character is written inside a JSON string. -/
def escapeChar (c : Char) : List Char :=
  if c = '"' then ['\\', '"']
  else if c = '\\' then ['\\', '\\']
  else if c = '\n' then ['\\', 'n']
  else if c = '\r' then ['\\', 'r']
  else if c = '\t' then ['\\', 't']
  else if c.toNat = 8 then ['\\', 'b']
  else if c.toNat = 12 then ['\\', 'f']
  else if c.toNat < 0x20 then ['\\', 'u', '0', '0', hexDigitChar (c.toNat / 16), hexDigitChar c.toNat]
  else [c]

/-- A text as a JSON string. -/
def stringChars (s : String) : List Char := '"' :: s.toList.flatMap escapeChar ++ ['"']

/-- Texts with a comma between them. -/
def commaSeparated : List (List Char) → List Char
  | [] => []
  | [x] => x
  | x :: rest => x ++ ',' :: commaSeparated rest

mutual

/-- A value in its compact written form. -/
def Value.chars : Value → List Char
  | .null => ['n', 'u', 'l', 'l']
  | .bool true => ['t', 'r', 'u', 'e']
  | .bool false => ['f', 'a', 'l', 's', 'e']
  | .int i => (toString i).toList
  | .float x => if x.isFinite then x.compactText.toList else ['n', 'u', 'l', 'l']
  | .str s => stringChars s
  | .arr items => '[' :: commaSeparated (itemTexts items) ++ [']']
  | .obj members => '\x7b' :: commaSeparated (memberTexts members) ++ ['\x7d']

/-- The written forms of the items of an array. -/
def itemTexts : List Value → List (List Char)
  | [] => []
  | v :: rest => v.chars :: itemTexts rest

/-- The written forms of the members of an object. -/
def memberTexts : List (String × Value) → List (List Char)
  | [] => []
  | (name, v) :: rest => (stringChars name ++ ':' :: v.chars) :: memberTexts rest

end

/-- A value in its compact written form. -/
def Value.compact (v : Value) : String := String.ofList v.chars

end ReportServer.Json
