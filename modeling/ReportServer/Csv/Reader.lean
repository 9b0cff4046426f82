/-!
# Reading CSV

The reader of comma-separated records takes one character at a time. Outside quotes, a quote
opens, a comma ends the field, and a line feed ends the field and the record; inside, a quote
closes, unless another one follows it at once: the two together are one quote of the field. All
other characters belong to the field.

What has been read of an unfinished record is part of the reader, so that a text which ends in the
middle of one can be told from a text which does not.
-/

namespace ReportServer.Csv

/-- Where the reader is with respect to quotes. -/
inductive Mode where
  | outside
  | inside
  /-- A quote inside quotes has just been read: it closes them or is the first of two. -/
  | afterQuote
deriving DecidableEq, Repr

/-- What the reader has read. -/
structure Reader where
  /-- The finished records. -/
  records : List (List (List Char))
  /-- The finished fields of the record at hand. -/
  fields : List (List Char)
  /-- The characters of the field at hand. -/
  current : List Char
  mode : Mode
deriving DecidableEq, Repr

namespace Reader

/-- Nothing has been read. -/
def start : Reader := ⟨[], [], [], .outside⟩

/-- Take a character into the field. -/
def push (r : Reader) (c : Char) : Reader := { r with current := r.current ++ [c] }

/-- Take a character outside quotes. -/
def stepOutside (r : Reader) (c : Char) : Reader :=
  if c = '"' then { r with mode := .inside }
  else if c = ',' then ⟨r.records, r.fields ++ [r.current], [], .outside⟩
  else if c = '\n' then ⟨r.records ++ [r.fields ++ [r.current]], [], [], .outside⟩
  else { r.push c with mode := .outside }

/-- Take one character. -/
def step (r : Reader) (c : Char) : Reader :=
  match r.mode with
  | .outside => r.stepOutside c
  | .inside => if c = '"' then { r with mode := .afterQuote } else r.push c
  | .afterQuote => if c = '"' then { r.push c with mode := .inside } else r.stepOutside c

/-- Take characters one after the other. -/
def feed (r : Reader) (s : List Char) : Reader := s.foldl step r

end Reader

/-- Read a text from its beginning. -/
def read (s : List Char) : Reader := Reader.start.feed s

end ReportServer.Csv
