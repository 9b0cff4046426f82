import ReportServer.Net.Host
import ReportServer.Net.Url.Path
import ReportServer.Text.Blank

/-!
# Addresses of the web

Reading an absolute address and writing it back in its canonical form. Schemes of the web have a
host and a path that begins with a slash, a default port that is not written, and let backslashes
stand for slashes. So do files, but they need no host and have neither user nor port. Other schemes
may have no host, or no hierarchy at all. Paths are written without dot segments, and what may not
stand in a part is percent-encoded.

An address without a scheme is relative, and there is nothing here that it could be relative to.
-/

namespace ReportServer.Net

/-- Why a text is not an address. -/
inductive UrlError where
  | relativeWithoutBase
  | invalidPort
  | host (e : HostError)
deriving DecidableEq, Repr

/-- The sentence that describes the error. -/
def UrlError.message : UrlError → String
  | relativeWithoutBase => "relative URL without a base"
  | invalidPort => "invalid port number"
  | host e => e.message

/-- An absolute address, its parts in written form. -/
structure Url where
  scheme : String
  username : String
  password : String
  /-- What stands between the two slashes and the path, without user and port; none if there are no
  two slashes. -/
  authority : Option String
  port : Option Nat
  path : String
  query : Option String
  fragment : Option String
deriving DecidableEq, Repr

namespace Url

/-- The host, if there is one. -/
def host (u : Url) : Option String := u.authority.filter (!·.isEmpty)

/-- The schemes of the web with their default ports. -/
def webSchemes : List (String × Nat) :=
  [("http", 80), ("https", 443), ("ws", 80), ("wss", 443), ("ftp", 21)]

/-- Whether a scheme is one of the web. -/
def isWeb (scheme : String) : Bool := webSchemes.any (·.1 == scheme)

/-- The scheme of files. -/
def fileScheme : String := "file"

/-- The characters of a scheme. -/
def isSchemeChar (c : Char) : Bool := c.isAlphanum || c == '+' || c == '-' || c == '.'

/-- Split the scheme off: it begins with a letter and ends with a colon. -/
def splitScheme (s : List Char) : Option (String × List Char) :=
  let name := s.takeWhile isSchemeChar
  match name.head?, s.drop name.length with
  | some c, ':' :: rest =>
    if c.isAlpha then some (Text.lowercase (String.ofList name), rest) else none
  | _, _ => none

/-! ## Authorities -/

/-- Whether a character ends the authority. -/
def endsAuthority (web : Bool) (c : Char) : Bool :=
  c == '/' || c == '?' || c == '#' || (web && c == '\\')

/-- What is escaped in the names of a user. -/
def userSet (c : Char) : Bool :=
  pathSet c || c == '/' || c == ':' || c == ';' || c == '=' || c == '@' || c == '[' || c == '\\' ||
    c == ']' || c == '^' || c == '|'

/-- The names of a user in written form: what comes before the first colon, and what comes after it. -/
def userNames (user : List Char) : String × String :=
  let name := user.takeWhile (· != ':')
  let encode (s : List Char) := String.ofList (percentEncode userSet (String.ofList s))
  (encode name, encode (user.drop (name.length + 1)))

/-- Split the names of a user off, at the last at-sign of the authority. There must be more behind
an at-sign that nothing stands before, unless the address ends there. -/
def splitUser (web : Bool) (s : List Char) : Except UrlError (List Char × List Char) :=
  let all := s.takeWhile (!endsAuthority web ·)
  let behind := all.reverse.takeWhile (· != '@')
  let rest := s.drop (all.length - behind.length)
  if behind.length = all.length then .ok ([], s)
  else
    let user := all.take (all.length - behind.length - 1)
    if user.isEmpty ∧ rest.head?.any (endsAuthority web) then .error (.host .empty) else .ok (user, rest)

/-- Split the host off, which ends at a colon that is not inside brackets, or with the authority. -/
def splitHost (web inside : Bool) : List Char → List Char × List Char
  | [] => ([], [])
  | c :: rest =>
    if (c = ':' ∧ !inside) ∨ endsAuthority web c then ([], c :: rest)
    else
      let inside := if c = '[' then true else if c = ']' then false else inside
      let (host, rest) := splitHost web inside rest
      (c :: host, rest)

/-- Split the port off, if there is one; the default port of the scheme is not kept. -/
def splitPort (scheme : String) : List Char → Except UrlError (Option Nat × List Char)
  | ':' :: s =>
    let ds := s.takeWhile Char.isDigit
    let rest := s.drop ds.length
    let n := ds.foldl (fun n c => n * 10 + (c.toNat - 48)) 0
    if 65535 < n ∨ !rest.head?.all (endsAuthority true) then .error .invalidPort
    else if ds.isEmpty ∨ (webSchemes.find? (·.1 == scheme)).map Prod.snd = some n then .ok (none, rest)
    else .ok (some n, rest)
  | s => .ok (none, s)

/-- The address of a scheme and an authority, with nothing behind it yet, and what follows. -/
def readAuthority (scheme : String) (s : List Char) : Except UrlError (Url × List Char) := do
  let web := isWeb scheme
  let (user, s) ← splitUser web s
  let (username, password) := userNames user
  let (hostChars, s) := splitHost web false s
  if web ∧ hostChars.isEmpty then throw (.host .empty)
  let host ← (if web then Host.ofWeb hostChars else Host.ofOther hostChars).mapError .host
  if host.isEmpty ∧ s.head? = some ':' then throw (.host .empty)
  let (port, s) ← splitPort scheme s
  if host.isEmpty ∧ !(username.isEmpty ∧ password.isEmpty) then throw (.host .empty)
  return (⟨scheme, username, password, some host, port, "", none, none⟩, s)

/-! ## Reading -/

/-- Whether a character ends the path. -/
def endsPath (c : Char) : Bool := c == '?' || c == '#'

/-- The path at the front, and what follows. -/
def splitPath (s : List Char) : List Char × List Char :=
  let path := s.takeWhile (!endsPath ·)
  (path, s.drop path.length)

/-- The address with the query and the fragment that stand in the rest of a text. -/
def withRest (special : Bool) (u : Url) (s : List Char) : Url :=
  let (query, s) := match s with
    | '?' :: rest =>
      let q := rest.takeWhile (· != '#')
      (some (String.ofList (percentEncode (querySet special) (String.ofList q))), rest.drop q.length)
    | s => (none, s)
  let fragment := match s with
    | '#' :: rest => some (String.ofList (percentEncode fragmentSet (String.ofList rest)))
    | _ => none
  { u with query := query, fragment := fragment }

/-- A text without the slash it begins with, if it begins with one. -/
def withoutSlash (special : Bool) : List Char → List Char
  | c :: rest => if isSlash special c then rest else c :: rest
  | [] => []

/-- Read what follows the two slashes of an address that is no file. -/
def readHierarchy (scheme : String) (s : List Char) : Except UrlError Url := do
  let web := isWeb scheme
  let (u, s) ← readAuthority scheme s
  let (path, s) := splitPath s
  let path := if !web && path.isEmpty then "" else (readPath false web ['/'] (withoutSlash web path)).text
  return withRest web { u with path := path } s

/-- Read what follows the scheme of a file. The host of this machine is not kept. -/
def readFile (s : List Char) : Except UrlError Url := do
  let file (host : String) (p : PathState) (rest : List Char) : Url :=
    withRest true ⟨fileScheme, "", "", some (if p.drive then "" else host), none, p.fileText, none, none⟩ rest
  let (path, rest) := splitPath s
  let slashes := path.takeWhile (isSlash true)
  match slashes.length with
  | 0 => return file "" (readPath true true ['/'] path) rest
  | 1 => return file "" (readPath true true [] path) rest
  | _ =>
    let path := path.drop 2
    let hostChars := path.takeWhile (!isSlash true ·)
    if isDrive hostChars then return file "" (readPath true true ['/'] path) rest
    else
      let host ← if hostChars.isEmpty then pure "" else (Host.ofWeb hostChars).mapError UrlError.host
      let path := path.drop hostChars.length
      if host.isEmpty ∨ host = "localhost" then return file "" (readPath true true [] path) rest
      else return file host (readPath true true ['/'] (withoutSlash true path)) rest

/-- Read what follows the scheme of an address without two slashes. -/
def readPlain (scheme : String) (s : List Char) : Url :=
  let (path, rest) := splitPath s
  let path := match path with
    | '/' :: path => (readPath false false ['/'] path).text
    | path => String.ofList (percentEncode isControl (String.ofList path))
  withRest false ⟨scheme, "", "", none, none, path, none, none⟩ rest

/-- What is stripped from the ends of a text before it is read. -/
def isEdge (c : Char) : Bool := c.toNat ≤ 0x20

/-- What is dropped wherever it stands. -/
def isDropped (c : Char) : Bool := c == '\t' || c == '\n' || c == '\r'

/-- Read an absolute address. -/
def parse (text : String) : Except UrlError Url := do
  let s := (Text.strip isEdge text.toList).filter (!isDropped ·)
  match splitScheme s with
  | none => throw .relativeWithoutBase
  | some (scheme, rest) =>
    if scheme = fileScheme then readFile rest
    else if isWeb scheme then readHierarchy scheme (rest.dropWhile (isSlash true))
    else match rest with
      | '/' :: '/' :: rest => readHierarchy scheme rest
      | rest => return readPlain scheme rest

/-! ## Writing -/

/-- The address without the names of a user. -/
def withoutUser (u : Url) : Url := { u with username := "", password := "" }

/-- An address in written form. Where two slashes could be taken for those of an authority, a dot is
put before them. -/
def text (u : Url) : String :=
  let user :=
    if u.username.isEmpty ∧ u.password.isEmpty then ""
    else u.username ++ (if u.password.isEmpty then "" else ":" ++ u.password) ++ "@"
  let front := match u.authority with
    | some h => "//" ++ user ++ h ++ (match u.port with | some p => ":" ++ toString p | none => "")
    | none => if "//".toList.isPrefixOf u.path.toList then "/." else ""
  u.scheme ++ ":" ++ front ++ u.path ++
    (match u.query with | some q => "?" ++ q | none => "") ++
    (match u.fragment with | some f => "#" ++ f | none => "")

end Url

end ReportServer.Net
