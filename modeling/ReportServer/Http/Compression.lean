import ReportServer.Http.Response
import ReportServer.Http.Request
import ReportServer.Text.Split

/-!
# Compression

An answer is compressed when the caller accepts it and the body is worth it. The one compressed
form the server knows is gzip. A caller lists forms with qualities; a quality is a number from 0 to
1 with at most three decimals, a form without one has the greatest, and a form of quality zero is
not accepted. The form of the greatest quality wins, and of equally good ones the compressed.
-/

namespace ReportServer.Http

/-- A form of a body. -/
inductive Coding where
  | identity
  | gzip
deriving DecidableEq, Repr

/-- The thousandths of up to three decimals, each worth `factor`. -/
def qualityDecimals (factor : Nat) : List Char → Option Nat
  | [] => some 0
  | c :: rest =>
    if c.isDigit ∧ 1 ≤ factor then
      (qualityDecimals (factor / 10) rest).map (factor * (c.toNat - 48) + ·)
    else none

/-- A quality in thousandths. -/
def quality (s : List Char) : Option Nat :=
  match s with
  | q :: '=' :: lead :: rest =>
    if q ≠ 'q' ∧ q ≠ 'Q' ∨ lead ≠ '0' ∧ lead ≠ '1' then none
    else
      let whole := if lead = '1' then 1000 else 0
      match rest with
      | [] => some whole
      | '.' :: decimals =>
        (qualityDecimals 100 decimals).bind fun n => if whole + n ≤ 1000 then some (whole + n) else none
      | _ => none
  | _ => none

/-- The form of a name. -/
def Coding.ofName (s : List Char) : Option Coding :=
  let name := String.ofList (s.map Char.toLower)
  if name = "gzip" ∨ name = "x-gzip" then some gzip
  else if name = "identity" then some identity
  else none

/-- A form with its quality. -/
def acceptedCoding (part : List Char) : Option (Coding × Nat) :=
  let name := part.takeWhile (· != ';')
  let rest := part.drop name.length
  (Coding.ofName (Text.strip Text.isBlank name)).bind fun coding =>
    if rest.isEmpty then some (coding, 1000)
    else (quality (Text.strip Text.isBlank (rest.drop 1))).map (coding, ·)

/-- The forms a caller accepts. -/
def acceptedCodings (h : Headers) : List (Coding × Nat) :=
  (((h.all "accept-encoding").filter isPlainValue).flatMap fun v =>
    (Text.splitWhere (· == ',') v.toList).filterMap acceptedCoding).filter (0 < ·.2)

/-- The greatest quality of a form, zero if it is not accepted. -/
def bestQuality (accepted : List (Coding × Nat)) (c : Coding) : Nat :=
  ((accepted.filter (·.1 == c)).map Prod.snd).foldl max 0

/-- Whether a caller prefers the compressed form. -/
def prefersGzip (h : Headers) : Bool :=
  let accepted := acceptedCodings h
  0 < bestQuality accepted .gzip && bestQuality accepted .identity ≤ bestQuality accepted .gzip

/-- The number of bytes of a body, where it is known. -/
def bodySize (r : Response) : Option Nat :=
  match r.body with
  | .text s => some s.utf8ByteSize
  | _ => (r.headers.first? "content-length").bind String.toNat?

/-- The least size that is worth compressing. -/
def compressFrom : Nat := 32

/-- Whether a body is worth compressing. -/
def worthCompressing (r : Response) : Bool :=
  match bodySize r with
  | some n => compressFrom ≤ n
  | none => true

/-- Whether an answer is compressed. -/
def Response.isCompressed (r : Response) : Bool := r.headers.contains "content-encoding"

/-- The headers of an answer that may be compressed. -/
def compressed (request : Headers) (r : Response) : Response :=
  if worthCompressing r then
    let varied := r.mapHeaders (·.add "vary" "accept-encoding")
    if prefersGzip request then
      varied.mapHeaders fun h => (h.remove "content-length").set "content-encoding" "gzip"
    else varied
  else r

end ReportServer.Http
