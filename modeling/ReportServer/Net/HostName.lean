import ReportServer.Net.HostName.Direction
import ReportServer.Net.HostName.Joining
import ReportServer.Net.HostName.Mapping
import ReportServer.Net.Punycode
import ReportServer.Text.Composed
import ReportServer.Text.Mark

/-!
# Host names

A host name is a sequence of labels with dots between them, in letters of any script. Names that
people take for the same have one ASCII form: characters are mapped and composed, and then a label
that is not ASCII is written in ASCII and marked. A label that comes with the mark already is read
back first and must be what writing it would give. Names that people could misread are refused.
-/

namespace ReportServer.Net.HostName

/-- What no label has: controls and blanks, and what means something else in an address. -/
def isDenied (c : Char) : Bool :=
  c.toNat ≤ 0x20 || c.toNat == 0x7F || c == '%' || c == '#' || c == '/' || c == ':' || c == '<' ||
    c == '>' || c == '?' || c == '@' || c == '[' || c == '\\' || c == ']' || c == '^' || c == '|'

/-- The mark of labels in ASCII form. -/
def asciiMark : List Char := ['x', 'n', '-', '-']

/-- Whether a character stays as it is. -/
def isKept (c : Char) : Bool := mapped? c == some [c]

/-- The most characters of an ASCII form without its mark. -/
def formLimit : Nat := 2000

/-- The most characters of a label that is not ASCII. -/
def labelLimit : Nat := 1000

/-- The label that an ASCII form stands for, without its mark: one that is not ASCII, does not bear
the mark itself, and would be left as it is. -/
def unmarked? (s : List Char) : Option (List Char) :=
  if s.all Punycode.isBasic ∧ s.length ≤ formLimit then
    (Punycode.decode s).filter fun label =>
      !label.all Punycode.isBasic && !asciiMark.isPrefixOf label && label.all isKept &&
        Text.composed label == label
  else none

/-- A label in the letters it stands for. -/
def label? (s : List Char) : Option (List Char) :=
  if asciiMark.isPrefixOf s then unmarked? (s.drop asciiMark.length) else some s

/-- Whether a label can stand by itself. -/
def standsAlone (label : List Char) : Bool :=
  !label.any isDenied && !label.head?.any Text.isMark && joinersFit [] label &&
    (label.all Punycode.isBasic || label.length ≤ labelLimit)

/-- The ASCII form of a label; one that is ASCII is its own. -/
def asciiLabel (label : List Char) : List Char :=
  if label.all Punycode.isBasic then label else asciiMark ++ Punycode.encode label

/-- The labels of a name in the letters they stand for, if it can be a name. -/
def labels? (name : List Char) : Option (List (List Char)) := do
  let characters ← name.mapM mapped?
  let labels ← (Text.splitWhere (· == '.') (Text.composed characters.flatten)).mapM label?
  if labels.all standsAlone && isUnambiguous labels then return labels else none

/-- The ASCII form of a name, if it can be a name. -/
def ascii? (name : String) : Option String :=
  (labels? name.toList).map fun labels =>
    ".".intercalate (labels.map fun l => String.ofList (asciiLabel l))

end ReportServer.Net.HostName
