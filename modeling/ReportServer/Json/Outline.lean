import ReportServer.Json.Reader
import ReportServer.Text.Utf8

/-!
# Outlines of JSON documents

Who is interested in a few members of an object does not read the others; that they are well formed is enough. An
outline tells how a document is put together, and keeps strings as they are written between their quotes. What a string
says is found out when somebody asks. So a document may hold strings that say nothing, because their bytes are not
UTF-8 or their escapes are no characters, and numbers that no type can hold, and its containers may nest as deep as
they like, as long as nobody asks for these parts.

A document comes as bytes, and each byte is taken for the character whose number it is.
-/

namespace ReportServer.Json

/-- How a document is put together. -/
inductive Outline where
  | null
  /-- A truth value or a number. -/
  | scalar
  /-- A string as it is written. -/
  | text (written : List Char)
  | arr (items : List Outline)
  | obj (members : List (List Char × Outline))

/-- Whether a character is a hexadecimal digit. -/
def isHexDigit (c : Char) : Bool := (Text.hexDigit? c).isSome

/-- The characters that an escape of one character can have. -/
def shortEscapes : List Char := ['"', '\\', '/', 'b', 'f', 'n', 'r', 't']

/-- The inside of a string as it is written, and what follows its closing quote. -/
def written : List Char → Option (List Char × List Char)
  | '"' :: rest => some ([], rest)
  | '\\' :: 'u' :: a :: b :: c :: d :: rest =>
    if isHexDigit a ∧ isHexDigit b ∧ isHexDigit c ∧ isHexDigit d then
      (written rest).map fun r => ('\\' :: 'u' :: a :: b :: c :: d :: r.1, r.2)
    else none
  | '\\' :: e :: rest =>
    if e ∈ shortEscapes then (written rest).map fun r => ('\\' :: e :: r.1, r.2) else none
  | c :: rest =>
    if c ≠ '\\' ∧ 0x20 ≤ c.toNat then (written rest).map fun r => (c :: r.1, r.2) else none
  | [] => none

/-- Of the parts of a document nothing is made but an outline. -/
def outlined : Making (List Char) Outline where
  string := written
  number s := (numeral s).map fun r => (.scalar, r.2)
  null := .null
  bool _ := .scalar
  text := .text
  arr := .arr
  obj := .obj

/-- The outline of a document. Its containers cannot nest deeper than it is long. -/
def outline? (s : List Char) : Option Outline := document outlined s.length s

/-- What a string says, if its bytes are UTF-8 and all its escapes are characters. -/
def said? (written : List Char) : Option String := do
  let s ← Text.ofUtf8? (Text.toBytes written)
  let ⟨(said, rest), _⟩ ← stringBody [] (s.toList ++ ['"'])
  if rest.isEmpty then some said else none

/-- What an outline says if it is a string. -/
def Outline.said? : Outline → Option String
  | .text written => Json.said? written
  | _ => none

end ReportServer.Json
