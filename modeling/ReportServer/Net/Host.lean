import ReportServer.Net.HostName
import ReportServer.Net.Percent
import ReportServer.Net.SocketAddress

/-!
# Hosts of addresses

The host of an address of the web is an IPv6 address in brackets, an IPv4 address, or a name in
ASCII form. Whatever ends in a number must be an IPv4 address; its numbers may be decimal, octal or
hexadecimal, and the last one fills what the others leave. The hosts of other addresses are taken as
they are.
-/

namespace ReportServer.Net

/-- Why a text is not a host. -/
inductive HostError where
  | empty
  | invalidIpv6
  | invalidIpv4
  /-- It is no host name. -/
  | invalidName
  /-- It holds a character that no host may hold. -/
  | invalidCharacter
deriving DecidableEq, Repr

/-- The sentence that describes the error. -/
def HostError.message : HostError → String
  | empty => "empty host"
  | invalidIpv6 => "invalid IPv6 address"
  | invalidIpv4 => "invalid IPv4 address"
  | invalidName => "invalid international domain name"
  | invalidCharacter => "invalid domain character"

namespace Host

/-- A number of an IPv4 host: decimal, octal after a zero, hexadecimal after `0x`. -/
def ipv4Number (s : List Char) : Option Nat :=
  let (base, ds) := match s with
    | '0' :: 'x' :: rest => (16, rest)
    | '0' :: 'X' :: rest => (16, rest)
    | '0' :: c :: rest => (8, c :: rest)
    | s => (10, s)
  if ds.all fun c => (digitIn base c).isSome then
    some (ds.foldl (fun n c => n * base + (digitIn base c).getD 0) 0)
  else none

/-- Whether a host must be an IPv4 address: its last part is a number. -/
def looksIpv4 (parts : List (List Char)) : Bool :=
  match parts.getLast? with
  | some p => !p.isEmpty && (p.all Char.isDigit || (ipv4Number p).isSome)
  | none => false

/-- An IPv4 host: up to four numbers, the last of which fills what is left. -/
def ipv4 (parts : List (List Char)) : Except HostError String := do
  let numbers ← parts.mapM fun p =>
    match if p.isEmpty then none else ipv4Number p with
    | some n => .ok n
    | none => .error HostError.invalidIpv4
  let front := numbers.dropLast
  let last := numbers.getLast?.getD 0
  if 4 < numbers.length ∨ front.any (255 < ·) ∨ Nat.pow 256 (5 - numbers.length) ≤ last then
    throw .invalidIpv4
  let high := (front.zipIdx.map fun (n, i) => n * Nat.pow 256 (3 - i)).foldl (· + ·) 0
  let n := high + last
  return SocketAddress.dotted [n / 16777216, n / 65536 % 256, n / 256 % 256, n % 256]

/-- A host in brackets, without the first of them. -/
def bracketed (s : List Char) : Except HostError String :=
  match s.getLast?, ipv6 s.dropLast with
  | some ']', some (groups, []) => .ok ("[" ++ SocketAddress.groupsText groups ++ "]")
  | _, _ => .error .invalidIpv6

/-- A host that is a name or an IPv4 address. Escapes in it are decoded. -/
def named (s : List Char) : Except HostError String :=
  match HostName.ascii? (Text.ofUtf8Lossy (percentDecoded (String.ofList s))) with
  | none => .error .invalidName
  | some name =>
    let parts := Text.splitWhere (· == '.') name.toList
    let parts := if 1 < parts.length ∧ parts.getLast? = some [] then parts.dropLast else parts
    if name.isEmpty then .error .empty
    else if looksIpv4 parts then ipv4 parts
    else .ok name

/-- The host of an address of the web in canonical form. -/
def ofWeb : List Char → Except HostError String
  | '[' :: rest => bracketed rest
  | s => named s

/-- What a host of another address must not hold. -/
def isForbidden (c : Char) : Bool :=
  c.toNat == 0 || c == '\t' || c == '\n' || c == '\r' || c == ' ' || c == '#' || c == '/' || c == ':' ||
    c == '<' || c == '>' || c == '?' || c == '@' || c == '[' || c == '\\' || c == ']' || c == '^' || c == '|'

/-- The host of any other address in canonical form. -/
def ofOther : List Char → Except HostError String
  | '[' :: rest => bracketed rest
  | s =>
    if s.any isForbidden then .error .invalidCharacter
    else .ok (String.ofList (percentEncode isControl (String.ofList s)))

end Host

end ReportServer.Net
