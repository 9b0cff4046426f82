/-!
# Text in a workbook

A workbook stores text with an escape syntax of its own: `_xHHHH_` stands for the character with
that hexadecimal code. Control characters below U+0020 other than tab and line feed are written so,
and a text that holds such an escape literally gets `_x005F` (an underscore) in front of it. A text
that looks like rich-text runs, from `<r>` to `</r>`, is stored as it is.

`unescape` is what a reader of the file does with a plain text.
-/

namespace ReportServer.Workbook

/-- A text as a workbook stores it. -/
inductive StoredText where
  /-- A plain text in escaped form. -/
  | plain (escaped : List Char)
  /-- Rich-text runs, stored without escaping. -/
  | rich (runs : List Char)
deriving DecidableEq, Repr

/-- A hexadecimal digit of either case. -/
def isHexDigit (c : Char) : Bool :=
  c.isDigit || ('a' ≤ c && c ≤ 'f') || ('A' ≤ c && c ≤ 'F')

/-- The value of a hexadecimal digit. -/
def hexDigitValue (c : Char) : Nat :=
  if c.isDigit then c.toNat - 48 else if 'a' ≤ c then c.toNat - 87 else c.toNat - 55

/-- Split an escape `_xHHHH_` off the front: its four digits and the rest. -/
def splitEscape : List Char → Option ((Char × Char × Char × Char) × List Char)
  | '_' :: 'x' :: a :: b :: c :: d :: '_' :: rest =>
    if isHexDigit a && isHexDigit b && isHexDigit c && isHexDigit d then some ((a, b, c, d), rest)
    else none
  | _ => none

theorem length_of_splitEscape {s rest : List Char} {ds : Char × Char × Char × Char}
    (h : splitEscape s = some (ds, rest)) : s.length = rest.length + 7 := by
  unfold splitEscape at h
  split at h
  · split at h
    · obtain ⟨-, rfl⟩ := Prod.mk.inj (Option.some.inj h)
      simp
    · simp at h
  · simp at h

/-- A control character that is written as an escape. -/
def isEscapedControl (c : Char) : Bool := c.toNat < 0x20 && c != '\t' && c != '\n'

/-- The upper-case hexadecimal digit of a number below sixteen. -/
def upperHexDigit (n : Nat) : Char := Char.ofNat (if n < 10 then 48 + n else 55 + n)

/-- The escape of a control character. -/
def controlEscape (c : Char) : List Char :=
  ['_', 'x', '0', '0', upperHexDigit (c.toNat / 16), upperHexDigit (c.toNat % 16), '_']

/-- An underscore, written as an escape without its closing underscore. -/
def underscoreEscape : List Char := ['_', 'x', '0', '0', '5', 'F']

/-- A text in escaped form. Escapes it holds literally are found from left to right. -/
def escapeText (s : List Char) : List Char :=
  match _hs : splitEscape s with
  | some ((a, b, c, d), rest) =>
    underscoreEscape ++ ['_', 'x', a, b, c, d, '_'] ++ escapeText rest
  | none =>
    match s with
    | [] => []
    | c :: rest => (if isEscapedControl c then controlEscape c else [c]) ++ escapeText rest
termination_by s.length
decreasing_by
  · have := length_of_splitEscape _hs; omega
  · simp

/-- Read an escaped text: each escape gives its character, from left to right. -/
def unescape (s : List Char) : List Char :=
  match _hs : splitEscape s with
  | some ((a, b, c, d), rest) =>
    Char.ofNat (((hexDigitValue a * 16 + hexDigitValue b) * 16 + hexDigitValue c) * 16 +
      hexDigitValue d) :: unescape rest
  | none =>
    match s with
    | [] => []
    | c :: rest => c :: unescape rest
termination_by s.length
decreasing_by
  · have := length_of_splitEscape _hs; omega
  · simp

/-- The mark that opens rich-text runs. -/
def runsOpen : List Char := ['<', 'r', '>']

/-- The mark that closes rich-text runs. -/
def runsClose : List Char := ['<', '/', 'r', '>']

/-- Whether a text looks like rich-text runs. -/
def isRuns (s : List Char) : Bool := runsOpen.isPrefixOf s && runsClose.isSuffixOf s

/-- A text as a workbook stores it. -/
def StoredText.ofChars (s : List Char) : StoredText :=
  if isRuns s then .rich s else .plain (escapeText s)

end ReportServer.Workbook
