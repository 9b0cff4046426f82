import ReportServer.Text.Hex

/-!
# Socket addresses

The address a server listens on: an IPv4 or IPv6 address and a port. IPv4 parts are decimal without
leading zeros. An IPv6 address is eight groups of up to four hexadecimal digits, one run of zero
groups may be written `::`, and the last two groups may be written as an IPv4 address; it stands in
brackets before the port and may carry a scope.

An address is written back in its canonical form: the longest run of two or more zero groups, the
first of equally long ones, becomes `::`.
-/

namespace ReportServer.Net

/-- An address and a port. -/
inductive SocketAddress where
  | v4 (octets : List Nat) (port : Nat)
  | v6 (groups : List Nat) (scope port : Nat)
deriving DecidableEq, Repr

/-- A reader of part of an address: a value and the rest, or nothing. -/
abbrev Part (α : Type) := List Char → Option (α × List Char)

/-- The value of a digit in a base up to 16. -/
def digitIn (base : Nat) (c : Char) : Option Nat := (Text.hexDigit? c).filter (· < base)

/-- A number in a base with at most `digits` digits that is less than `bound`. -/
def number (base digits bound : Nat) (leadingZeros : Bool) : Part Nat := fun s =>
  let ds := s.takeWhile fun c => (digitIn base c).isSome
  let value := ds.foldl (fun n c => n * base + (digitIn base c).getD 0) 0
  if ds.isEmpty ∨ digits < ds.length ∨ bound ≤ value then none
  else if !leadingZeros ∧ ds.head? = some '0' ∧ 1 < ds.length then none
  else some (value, s.drop ds.length)

/-- One character. -/
def char (c : Char) : Part Unit
  | d :: rest => if c = d then some ((), rest) else none
  | [] => none

/-- A port, with as many digits as it has. -/
def port : Part Nat := fun s => number 10 s.length 65536 true s

/-- An IPv4 address: four numbers below 256 with dots between them. -/
def ipv4 : Part (List Nat) := fun s => do
  let (a, s) ← number 10 3 256 false s
  let (_, s) ← char '.' s
  let (b, s) ← number 10 3 256 false s
  let (_, s) ← char '.' s
  let (c, s) ← number 10 3 256 false s
  let (_, s) ← char '.' s
  let (d, s) ← number 10 3 256 false s
  return ([a, b, c, d], s)

/-- An IPv4 address as two groups. -/
def groupsOfIpv4 : List Nat → List Nat
  | [a, b, c, d] => [a * 256 + b, c * 256 + d]
  | _ => []

/-- What separates a group from the one before it. -/
def separator (first : Bool) : Part Unit := fun s => if first then some ((), s) else char ':' s

/--
Groups at the front, at most `limit` of them, and whether they end in an IPv4 address. Reading
stops before the first group that does not fit.
-/
def groups (first : Bool) : Nat → List Char → List Nat × Bool × List Char
  | 0, s => ([], false, s)
  | limit + 1, s =>
    let embedded := if limit = 0 then none else (separator first s).bind fun (_, s) => ipv4 s
    match embedded with
    | some (octets, rest) => (groupsOfIpv4 octets, true, rest)
    | none =>
      match (separator first s).bind fun (_, s) => number 16 4 65536 true s with
      | none => ([], false, s)
      | some (g, rest) =>
        let (more, dotted, rest) := groups false limit rest
        (g :: more, dotted, rest)

/-- An IPv6 address. -/
def ipv6 : Part (List Nat) := fun s =>
  let (front, dotted, rest) := groups true 8 s
  if front.length = 8 then some (front, rest)
  else if dotted then none
  else do
    let (_, rest) ← char ':' rest
    let (_, rest) ← char ':' rest
    let (back, _, rest) := groups true (7 - front.length) rest
    return (front ++ List.replicate (8 - front.length - back.length) 0 ++ back, rest)

/-- The scope of an IPv6 address, zero if there is none. -/
def scope : Part Nat
  | '%' :: rest => number 10 rest.length UInt32.size true rest
  | s => some (0, s)

/-- An IPv4 address and a port. -/
def socketV4 : Part SocketAddress := fun s => do
  let (octets, s) ← ipv4 s
  let (_, s) ← char ':' s
  let (p, s) ← port s
  return (.v4 octets p, s)

/-- An IPv6 address in brackets and a port. -/
def socketV6 : Part SocketAddress := fun s => do
  let (_, s) ← char '[' s
  let (gs, s) ← ipv6 s
  let (sc, s) ← scope s
  let (_, s) ← char ']' s
  let (_, s) ← char ':' s
  let (p, s) ← port s
  return (.v6 gs sc p, s)

namespace SocketAddress

/-- Read an address that is the whole text. -/
def parse? (s : String) : Option SocketAddress :=
  let whole (r : Option (SocketAddress × List Char)) :=
    r.bind fun (a, rest) => if rest.isEmpty then some a else none
  (whole (socketV4 s.toList)).or (whole (socketV6 s.toList))

/-! ## Writing -/

/-- Octets with dots between them. -/
def dotted (octets : List Nat) : String := ".".intercalate (octets.map toString)

/-- Groups in lower-case hexadecimal with colons between them. -/
def colons (gs : List Nat) : String :=
  ":".intercalate (gs.map fun g => String.ofList (Nat.toDigits 16 g))

/-- How many zeros stand at the front. -/
def zerosInFront (gs : List Nat) : Nat := (gs.takeWhile (· == 0)).length

/-- The longest run of zeros, the first of equally long ones: where it begins and its length. -/
def longestZeros (gs : List Nat) : Nat × Nat :=
  (List.range gs.length).foldl (fun best i =>
    let n := zerosInFront (gs.drop i)
    if best.2 < n then (i, n) else best) (0, 0)

/-- The groups of an IPv6 address, the longest run of zeros left out. -/
def groupsText (gs : List Nat) : String :=
  let (start, len) := longestZeros gs
  if 1 < len then colons (gs.take start) ++ "::" ++ colons (gs.drop (start + len)) else colons gs

/-- An IPv6 address in canonical form. One that stands for an IPv4 address shows it. -/
def ipv6Text (gs : List Nat) : String :=
  match gs with
  | [0, 0, 0, 0, 0, 65535, a, b] =>
    "::ffff:" ++ dotted [a / 256, a % 256, b / 256, b % 256]
  | _ => groupsText gs

/-- An address in its canonical form. -/
def text : SocketAddress → String
  | v4 octets port => dotted octets ++ ":" ++ toString port
  | v6 gs scope port =>
    let zone := if scope = 0 then "" else "%" ++ toString scope
    "[" ++ ipv6Text gs ++ zone ++ "]:" ++ toString port

end SocketAddress

end ReportServer.Net
