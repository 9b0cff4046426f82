/-!
# Host names beyond ASCII

A label of a host name that is not ASCII is sent in an ASCII form: `xn--`, then its ASCII
characters, a hyphen if there are any, and then one number for each of the others. The numbers say,
in order of code points, how many places and code points lie between one such character and the
next. They are written in base 36 with digits whose weights adapt to what was written before. Reading
puts the characters back one by one.
-/

namespace ReportServer.Net.Punycode

/-- A digit of base 36: letters first. -/
def digit (n : Nat) : Char := Char.ofNat (if n < 26 then 97 + n else 22 + n)

/-- The threshold of a digit: between 1 and 26, growing with the digit's place. -/
def threshold (bias place : Nat) : Nat := max 1 (min 26 (place * 36 - bias))

theorem one_le_threshold (bias place : Nat) : 1 ≤ threshold bias place := Nat.le_max_left ..

/-- The digits of a number from a place on. -/
def digitsFrom (bias place q : Nat) : List Char :=
  if q < threshold bias place then [digit q]
  else
    digit (threshold bias place + (q - threshold bias place) % (36 - threshold bias place)) ::
      digitsFrom bias (place + 1) ((q - threshold bias place) / (36 - threshold bias place))
termination_by q
decreasing_by
  have := one_le_threshold bias place
  have := Nat.div_le_self (q - threshold bias place) (36 - threshold bias place)
  omega

/-- The bias for numbers about as large as `d`, on top of `k`: each division by 35 moves the weights by a digit. -/
def biasFor (k d : Nat) : Nat := if 455 < d then biasFor (k + 36) (d / 35) else k + 36 * d / (d + 38)
termination_by d
decreasing_by omega

/-- The bias after a number that was `delta`, with `count` characters placed. The first number counts less. -/
def adapted (delta count : Nat) (first : Bool) : Nat :=
  let d := if first then delta / 700 else delta / 2
  biasFor 0 (d + d / count)

/-- What has been written, and what the next number depends on. -/
structure State where
  /-- The least code point not dealt with. -/
  next : Nat
  delta : Nat
  bias : Nat
  placed : Nat
  output : List Char
deriving Repr

/-- Pass a character while placing those of code point `m`. -/
def pass (basic m : Nat) (s : State) (c : Char) : State :=
  if c.toNat < m then { s with delta := s.delta + 1 }
  else if c.toNat = m then
    { s with
      output := s.output ++ digitsFrom s.bias 1 s.delta
      bias := adapted s.delta (s.placed + 1) (s.placed == basic)
      delta := 0
      placed := s.placed + 1 }
  else s

/-- Place all characters of code point `m`. -/
def place (label : List Char) (basic : Nat) (s : State) (m : Nat) : State :=
  let s := { s with delta := s.delta + (m - s.next) * (s.placed + 1), next := m }
  let s := label.foldl (pass basic m) s
  { s with delta := s.delta + 1, next := m + 1 }

/-- Whether a character is ASCII. -/
def isBasic (c : Char) : Bool := c.toNat < 0x80

/-- The code points beyond ASCII of a label, in order and once each. -/
def rareCodes (label : List Char) : List Nat :=
  (((label.filter (!isBasic ·)).map Char.toNat).mergeSort (· ≤ ·)).eraseDups

/-- The ASCII form of a label without its mark. -/
def encode (label : List Char) : List Char :=
  let basic := label.filter isBasic
  let front := if basic.isEmpty then [] else basic ++ ['-']
  ((rareCodes label).foldl (place label basic.length) ⟨0x80, 0, 72, basic.length, front⟩).output

/-! ## Reading -/

/-- The value of a digit of base 36. -/
def digitValue? (c : Char) : Option Nat :=
  if 'a' ≤ c ∧ c ≤ 'z' then some (c.toNat - 97)
  else if 'A' ≤ c ∧ c ≤ 'Z' then some (c.toNat - 65)
  else if c.isDigit then some (c.toNat - 22)
  else none

/-- A number at the front, from a place on whose weight and what was read before are given. It ends
with the first digit below its threshold, and it fits 32 bits. -/
def number? (bias place weight value : Nat) : List Char → Option (Nat × List Char)
  | [] => none
  | c :: rest =>
    match digitValue? c with
    | none => none
    | some d =>
      let value := value + d * weight
      let weight := weight * (36 - threshold bias place)
      if UInt32.size ≤ value then none
      else if d < threshold bias place then some (value, rest)
      else if UInt32.size ≤ weight then none
      else number? bias (place + 1) weight value rest

theorem length_lt_of_number? {bias place weight value n : Nat} {s rest : List Char}
    (h : number? bias place weight value s = some (n, rest)) : rest.length < s.length := by
  induction s generalizing place weight value with
  | nil => simp [number?] at h
  | cons c s ih =>
    simp only [number?] at h
    split at h
    · simp at h
    · split at h
      · simp at h
      · split at h
        · simp only [Option.some.injEq, Prod.mk.injEq] at h
          simp [← h.2]
        · split at h
          · simp at h
          · exact Nat.lt_succ_of_lt (ih h)

/-- Put the characters that numbers stand for among those that are there, `place` and `code` being
where and what the last one was. -/
def insertAll (place code bias : Nat) (first : Bool) (label : List Char) (s : List Char) :
    Option (List Char) :=
  if s.isEmpty then some label
  else
    match _h : number? bias 1 1 0 s with
    | none => none
    | some (delta, rest) =>
      let count := label.length + 1
      let i := place + delta
      let code := code + i / count
      if code.isValidChar then
        insertAll (i % count + 1) code (adapted delta count first) false
          (label.take (i % count) ++ Char.ofNat code :: label.drop (i % count)) rest
      else none
termination_by s.length
decreasing_by exact length_lt_of_number? (by assumption)

/-- The label of an ASCII form without its mark. What stands before the last hyphen is ASCII, and if
nothing does the hyphen is a digit, and so no good. -/
def decode (s : List Char) : Option (List Char) :=
  let numbers := (s.reverse.takeWhile (· != '-')).reverse
  match s.length - numbers.length with
  | 0 => insertAll 0 0x80 72 true [] s
  | 1 => none
  | n + 2 => insertAll 0 0x80 72 true (s.take (n + 1)) numbers

end ReportServer.Net.Punycode
