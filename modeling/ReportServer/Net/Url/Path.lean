import ReportServer.Net.Percent
import ReportServer.Text.Lowercase
import ReportServer.Text.Split

/-!
# Paths of addresses

A path is read segment by segment. A segment of one dot stands for the folder itself, and one of two
dots for the folder above; a dot may be escaped. The letter of a drive is kept when the folder above
it is asked for, and where it comes first in the path of a file it is written with a colon, and
there is no host.

The part of a path that has been read is kept from its end, because that is where it grows.
-/

namespace ReportServer.Net.Url

/-- Whether a character ends a segment of a path. -/
def isSlash (special : Bool) (c : Char) : Bool := c == '/' || (special && c == '\\')

/-- A segment that stands for the folder itself. -/
def isDot (s : List Char) : Bool :=
  s == ['.'] || Text.lowercase (String.ofList s) == "%2e"

/-- A segment that stands for the folder above. -/
def isDoubleDot (s : List Char) : Bool :=
  let t := Text.lowercase (String.ofList s)
  t == ".." || t == ".%2e" || t == "%2e." || t == "%2e%2e"

/-- Whether a text begins with a drive: a letter, a colon or a bar, and nothing else in the segment. -/
def beginsWithDrive : List Char → Bool
  | c :: d :: rest =>
    c.isAlpha && (d == ':' || d == '|') && rest.head?.all fun e => e == '/' || e == '\\' || e == '?' || e == '#'
  | _ => false

/-- Whether a segment is a drive. -/
def isDrive (s : List Char) : Bool := s.length == 2 && beginsWithDrive s

/-- A path that ends with a slash, without its last segment; both are read from the end. -/
def above (file : Bool) : List Char → List Char
  | [] => []
  | slash :: front =>
    let last := front.takeWhile (· != '/')
    let isRoot := last.length = front.length
    let back := if isRoot ∨ beginsWithDrive last.reverse then slash :: front else front
    let last := back.takeWhile (· != '/')
    if file && isDrive last.reverse && last.head? == some ':' then back else back.drop last.length

/-- What has been read of a path, from its end, and whether it began with a drive. -/
structure PathState where
  back : List Char
  drive : Bool

namespace PathState

/-- The path with a slash at its end. -/
def slashed (p : PathState) : PathState :=
  if p.back.head? = some '/' then p else { p with back := '/' :: p.back }

/-- The path with one more segment, behind which there may be a slash. -/
def add (file slash : Bool) (p : PathState) (segment : List Char) : PathState :=
  let close (p : PathState) : PathState := if slash then { p with back := '/' :: p.back } else p
  if isDoubleDot segment then
    let p : PathState := { p with back := above file p.back }
    if slash then p.slashed else p
  else if isDot segment then p.slashed
  else if file && p.back == ['/'] && isDrive segment then
    close ⟨':' :: segment.take 1 ++ p.back, true⟩
  else close { p with back := segment.reverse ++ p.back }

/-- The path with more segments, between which there are slashes. -/
def addAll (file : Bool) (p : PathState) : List (List Char) → PathState
  | [] => p
  | [s] => p.add file false s
  | s :: rest => addAll file (p.add file true s) rest

end PathState

/-- The path that begins with `start` and goes on with a text. -/
def readPath (file special : Bool) (start : List Char) (s : List Char) : PathState :=
  let segments := (Text.splitWhere (isSlash special) s).map fun seg => percentEncode pathSet (String.ofList seg)
  PathState.addAll file ⟨start.reverse, false⟩ segments

/-- A path in written form. -/
def PathState.text (p : PathState) : String := String.ofList p.back.reverse

/-- The path of a file in written form, which begins with one slash. -/
def PathState.fileText (p : PathState) : String :=
  String.ofList ('/' :: p.back.reverse.dropWhile (· == '/'))

end ReportServer.Net.Url
