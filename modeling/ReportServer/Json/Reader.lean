import ReportServer.Json.Value
import ReportServer.Text.Hex

/-!
# Reading JSON

A recursive descent over characters. Every reader answers with the value it found and the rest of
the text, which is shorter than what it was given; that bound is part of its type, and it is what
lets the loops over items and members end. Containers nest at most 127 deep.

A whole number that fits 64 bits is an integer; any other number is a 64-bit floating point number
made from at most 64 bits of its digits and one power of ten.
-/

namespace ReportServer.Json

/-- A value and the rest of the text, which is shorter than `s`. -/
abbrev Parsed (α : Type) (s : List Char) := Option { r : α × List Char // r.2.length < s.length }

/-- What was read from a text was read from any text that is at least as long. -/
def Parsed.widen {α : Type} {s t : List Char} (h : s.length ≤ t.length) (r : Parsed α s) : Parsed α t :=
  r.map fun r => ⟨r.val, Nat.lt_of_lt_of_le r.property h⟩

/-- The characters that may stand between the parts of a document. -/
def isGap (c : Char) : Bool := c == ' ' || c == '\n' || c == '\t' || c == '\r'

/-- Drop the gap in front. -/
def skipGap (s : List Char) : List Char := s.dropWhile isGap

theorem length_skipGap_le (s : List Char) : (skipGap s).length ≤ s.length :=
  (List.dropWhile_suffix _).length_le

/-- Read `word` at the front. -/
def expect (word : List Char) (s : List Char) : Option (List Char) :=
  if word.isPrefixOf s then some (s.drop word.length) else none

/-! ## Strings -/

/-- Four hexadecimal digits. -/
def hex4 : List Char → Option (Nat × List Char)
  | a :: b :: c :: d :: rest => do
    let a ← Text.hexDigit? a
    let b ← Text.hexDigit? b
    let c ← Text.hexDigit? c
    let d ← Text.hexDigit? d
    return (((a * 16 + b) * 16 + c) * 16 + d, rest)
  | _ => none

/-- The character of an escape by code units, after the `\u`; a high half needs its low half. -/
def unicodeEscape (s : List Char) : Option (Char × List Char) := do
  let (hi, rest) ← hex4 s
  if 0xDC00 ≤ hi ∧ hi < 0xE000 then none
  else if 0xD800 ≤ hi ∧ hi < 0xDC00 then
    match rest with
    | '\\' :: 'u' :: rest =>
      let (lo, rest) ← hex4 rest
      if 0xDC00 ≤ lo ∧ lo < 0xE000 then
        some (Char.ofNat (0x10000 + (hi - 0xD800) * 0x400 + (lo - 0xDC00)), rest)
      else none
    | _ => none
  else some (Char.ofNat hi, rest)

/-- The character of an escape, after the backslash. -/
def escape : List Char → Option (Char × List Char)
  | '"' :: rest => some ('"', rest)
  | '\\' :: rest => some ('\\', rest)
  | '/' :: rest => some ('/', rest)
  | 'b' :: rest => some (Char.ofNat 8, rest)
  | 'f' :: rest => some (Char.ofNat 12, rest)
  | 'n' :: rest => some ('\n', rest)
  | 'r' :: rest => some ('\r', rest)
  | 't' :: rest => some ('\t', rest)
  | 'u' :: rest => unicodeEscape rest
  | _ => none

theorem length_lt_of_hex4 {s rest : List Char} {n : Nat} (h : hex4 s = some (n, rest)) :
    rest.length < s.length := by
  unfold hex4 at h
  split at h
  · simp only [Option.bind_eq_bind, Option.bind_eq_some_iff, Option.pure_def, Option.some.injEq,
      Prod.mk.injEq] at h
    obtain ⟨_, _, _, _, _, _, _, _, _, rfl⟩ := h
    simp only [List.length_cons]
    omega
  · simp at h

theorem length_lt_of_unicodeEscape {s rest : List Char} {c : Char}
    (h : unicodeEscape s = some (c, rest)) : rest.length < s.length := by
  simp only [unicodeEscape, Option.bind_eq_bind, Option.bind_eq_some_iff] at h
  obtain ⟨⟨hi, after⟩, hhi, h⟩ := h
  have first := length_lt_of_hex4 hhi
  split at h
  · simp at h
  · split at h
    · split at h
      · next later hlater =>
        simp only [Option.bind_eq_some_iff] at h
        obtain ⟨⟨lo, last⟩, hlo, h⟩ := h
        have second := length_lt_of_hex4 hlo
        have between : after = '\\' :: 'u' :: later := hlater
        split at h
        · simp only [Option.some.injEq, Prod.mk.injEq] at h
          rw [between, List.length_cons, List.length_cons] at first
          rw [← h.2]
          omega
        · simp at h
      · simp at h
    · simp only [Option.some.injEq, Prod.mk.injEq] at h
      exact h.2 ▸ first

/-- An escape takes up part of the text. -/
theorem length_lt_of_escape {s rest : List Char} {c : Char} (h : escape s = some (c, rest)) :
    rest.length < s.length := by
  unfold escape at h
  split at h
  case h_9 => exact Nat.lt_succ_of_lt (length_lt_of_unicodeEscape h)
  case h_10 => simp at h
  all_goals
    simp only [Option.some.injEq, Prod.mk.injEq] at h
    exact h.2 ▸ Nat.lt_succ_self _

/-- The inside of a string and what follows its closing quote. -/
def stringBody (found : List Char) (s : List Char) : Parsed String s :=
  match s with
  | [] => none
  | c :: rest =>
    if c = '"' then some ⟨(String.ofList found.reverse, rest), Nat.lt_succ_self _⟩
    else if c = '\\' then
      match h : escape rest with
      | none => none
      | some (e, rest') =>
        (stringBody (e :: found) rest').widen
          (Nat.le_of_lt (Nat.lt_succ_of_lt (length_lt_of_escape h)))
    else if c.toNat < 0x20 then none
    else (stringBody (c :: found) rest).widen (Nat.le_succ _)
termination_by s.length
decreasing_by
  · exact Nat.lt_succ_of_lt (length_lt_of_escape h)
  · exact Nat.lt_succ_self _

/-! ## Numbers -/

/-- The digits of a number as far as 64 bits hold them, and how many were left out. -/
def accumulate (start : Nat) : List Char → Nat × Nat
  | [] => (start, 0)
  | c :: rest =>
    let next := start * 10 + (c.toNat - 48)
    if next < UInt64.size then accumulate next rest else (start, rest.length + 1)

/-- `10 ^ n` as the nearest floating point number. -/
def floatPower (n : Nat) : Decimal.Binary64 := Decimal.Binary64.ofQuotient false (Decimal.tenPow n) 1 0

/--
A significand times a power of ten, in one rounding for the significand and one for each power:
beyond `10 ^ 308` the scaling is done in steps of that size. Fails if the result is infinite.
-/
def scaleFloat (x : Decimal.Binary64) (exponent : Int) : Option Decimal.Binary64 :=
  if x.isZero then some x
  else if 0 ≤ exponent then
    if 308 < exponent then none
    else
      let y := x.mul (floatPower exponent.toNat)
      if y.isFinite then some y else none
  else
    let n := (-exponent).toNat
    if n ≤ 308 then some (x.div (floatPower n))
    else
      let y := x.div (floatPower 308)
      if y.isZero then some y
      else if n ≤ 616 then some (y.div (floatPower (n - 308)))
      else some (Decimal.Binary64.ofInt 0)

/-- A number from its sign, whole digits, digits after the point, and exponent. -/
def numberValue (negative : Bool) (whole : List Char) (fraction : Option (List Char))
    (exponent : Option Int) : Option Value :=
  let signed (x : Decimal.Binary64) := if negative then x.neg else x
  let (w, dropped) := accumulate 0 whole
  match fraction, exponent, dropped with
  | none, none, 0 =>
    if negative ∧ (w = 0 ∨ Int64.maxValue.toInt.toNat + 1 < w) then some (.float (signed (.ofInt w)))
    else some (.int (if negative then -w else w))
  | _, _, _ =>
    let f := fraction.getD []
    let (m, lost) := if dropped = 0 then accumulate w f else (w, f.length)
    let places : Int := dropped - ((f.length : Int) - lost)
    (scaleFloat (.ofInt m) (places + exponent.getD 0)).map fun x => .float (signed x)

/-- The decimal value of digits. -/
def digitsValue (ds : List Char) : Nat := ds.foldl (fun n c => n * 10 + (c.toNat - 48)) 0

/-- Digits at the front, and the rest. -/
def digits (s : List Char) : List Char × List Char := (s.takeWhile Char.isDigit, s.dropWhile Char.isDigit)

/-- Whether there is a minus at the front, and the rest. -/
def minusPart : List Char → Bool × List Char
  | '-' :: rest => (true, rest)
  | s => (false, s)

/-- Whether there is a minus at the front, where a plus may be as well, and the rest. -/
def signPart : List Char → Bool × List Char
  | '+' :: rest => (false, rest)
  | s => minusPart s

/-- The exponent after an `e`, and the rest. -/
def exponentPart (s : List Char) : Option (Int × List Char) :=
  let (negative, s) := signPart s
  match digits s with
  | ([], _) => none
  | (ds, rest) => some (if negative then -(digitsValue ds : Int) else digitsValue ds, rest)

/-- The digits before the point, and the rest: no zero stands before another digit. -/
def wholePart (s : List Char) : Option (List Char × List Char) :=
  let (ds, rest) := digits s
  if ds.isEmpty ∨ (ds.head? = some '0' ∧ 1 < ds.length) then none else some (ds, rest)

/-- The digits after the point if there is one, and the rest. -/
def fractionPart (s : List Char) : Option (Option (List Char) × List Char) :=
  match s with
  | '.' :: rest =>
    let (ds, rest) := digits rest
    if ds.isEmpty then none else some (some ds, rest)
  | _ => some (none, s)

/-- The exponent if there is one, and the rest. -/
def exponentIfAny (s : List Char) : Option (Option Int × List Char) :=
  match s with
  | c :: rest =>
    if c = 'e' ∨ c = 'E' then (exponentPart rest).map fun (e, r) => (some e, r) else some (none, s)
  | [] => some (none, s)

/-- The parts of a number as written. -/
structure Numeral where
  negative : Bool
  whole : List Char
  fraction : Option (List Char)
  exponent : Option Int

/-- A number as written, and the rest. -/
def numeral (s : List Char) : Option (Numeral × List Char) := do
  let (negative, s) := minusPart s
  let (whole, s) ← wholePart s
  let (fraction, s) ← fractionPart s
  let (exponent, s) ← exponentIfAny s
  return (⟨negative, whole, fraction, exponent⟩, s)

/-- A number, and the rest. -/
def number (s : List Char) : Option (Value × List Char) := do
  let (n, rest) ← numeral s
  let v ← numberValue n.negative n.whole n.fraction n.exponent
  return (v, rest)

/-! ## Containers -/

/-- Keep an answer only if it used up part of the text. -/
def shorter {α : Type} (s : List Char) : Option (α × List Char) → Parsed α s
  | some r => if h : r.2.length < s.length then some ⟨r, h⟩ else none
  | none => none

/-- Items up to the closing bracket, each read by `item`, at least one. -/
def items {α : Type} (close : Char) (item : (s : List Char) → Parsed α s) (found : List α)
    (s : List Char) : Parsed (List α) s :=
  match item s with
  | none => none
  | some ⟨(a, rest), h⟩ =>
    match hs : skipGap rest with
    | [] => none
    | c :: rest' =>
      have hr : rest'.length < rest.length := by
        have := length_skipGap_le rest
        rw [hs] at this
        exact this
      if c = close then some ⟨((a :: found).reverse, rest'), Nat.lt_trans hr h⟩
      else if c = ',' then
        (items close item (a :: found) rest').widen (Nat.le_of_lt (Nat.lt_trans hr h))
      else none
termination_by s.length
decreasing_by exact Nat.lt_trans hr h

/-- What stands between the brackets of a container: nothing, or items. -/
def bracketed {α : Type} (close : Char) (item : (s : List Char) → Parsed α s) (s : List Char) :
    Option (List α × List Char) :=
  match skipGap s with
  | [] => none
  | c :: rest =>
    if c = close then some ([], rest) else (items close item [] (c :: rest)).map Subtype.val

/-- What is made of the parts of a document. A string is read behind its opening quote. -/
structure Making (σ α : Type) where
  string : List Char → Option (σ × List Char)
  number : List Char → Option (α × List Char)
  null : α
  bool : Bool → α
  text : σ → α
  arr : List α → α
  obj : List (σ × α) → α

section Making

variable {σ α : Type} (m : Making σ α)

/-- A member of an object: a name, a colon, and a value read by `value`. -/
def member (value : List Char → Option (α × List Char)) (s : List Char) : Parsed (σ × α) s :=
  shorter s <|
    match skipGap s with
    | '"' :: rest => do
      let (name, rest) ← m.string rest
      match skipGap rest with
      | ':' :: rest =>
        let (v, rest) ← value rest
        return ((name, v), rest)
      | _ => none
    | _ => none

/-- A value in which containers nest less than `depth` deep. -/
def value : Nat → List Char → Option (α × List Char)
  | depth, s =>
    match skipGap s with
    | [] => none
    | '"' :: rest => (m.string rest).map fun r => (m.text r.1, r.2)
    | '[' :: rest =>
      match depth with
      | 0 => none
      | depth + 1 =>
        (bracketed ']' (fun s => shorter s (value depth s)) rest).map fun r => (m.arr r.1, r.2)
    | '\x7b' :: rest =>
      match depth with
      | 0 => none
      | depth + 1 =>
        (bracketed '\x7d' (member m (value depth)) rest).map fun r => (m.obj r.1, r.2)
    | c :: rest =>
      if c = 'n' then (expect ['u', 'l', 'l'] rest).map fun r => (m.null, r)
      else if c = 't' then (expect ['r', 'u', 'e'] rest).map fun r => (m.bool true, r)
      else if c = 'f' then (expect ['a', 'l', 's', 'e'] rest).map fun r => (m.bool false, r)
      else m.number (c :: rest)

/-- A document: one value in which containers nest less than `depth` deep, and nothing else but gaps. -/
def document (depth : Nat) (s : List Char) : Option α :=
  match value m depth s with
  | some (v, rest) => if (skipGap rest).isEmpty then some v else none
  | none => none

end Making

/-- Every part of a document is made what it says. -/
def valued : Making String Value where
  string s := (stringBody [] s).map Subtype.val
  number := number
  null := .null
  bool := .bool
  text := .str
  arr := .arr
  obj := .obj

/-- How deep containers may nest. -/
def maxDepth : Nat := 127

/-- Read a document. -/
def parse? (s : String) : Option Value := document valued maxDepth s.toList

end ReportServer.Json
