import ReportServer.Text.CodeTable

/-!
# Patterns

A pattern describes texts: characters, sequences, alternatives and repetitions. Where a text can be
matched in several ways there is an order of preference, and only the preferred way counts: the
first of the alternatives that leads anywhere, and as many repetitions as possible, or as few. A
pattern matches a text if the preferred match from its beginning goes to its end.

`Pattern.ends` lists the places where a match may end, the preferred one first. A place is listed
once, because nothing that follows depends on the way there.
-/

namespace ReportServer.Text

/-- A set of characters. -/
inductive CharSet where
  | range (first last : Nat)
  | union (a b : CharSet)
  | complement (a : CharSet)
deriving DecidableEq, Repr

namespace CharSet

/-- Whether a code point is in the set. -/
def holds : CharSet → Nat → Bool
  | range first last, n => first ≤ n && n ≤ last
  | union a b, n => a.holds n || b.holds n
  | complement a, n => !a.holds n

/-- The set of one character. -/
def single (c : Char) : CharSet := range c.toNat c.toNat

/-- The set of several ranges. -/
def ofRanges : List (Nat × Nat) → CharSet
  | [] => complement (range 0 0x10FFFF)
  | [(a, b)] => range a b
  | (a, b) :: rest => union (range a b) (ofRanges rest)

/-- The set with the ASCII letters of the other case that belong to its letters. -/
def anyCase : CharSet → CharSet
  | range first last =>
    let shifted (low high : Nat) (shift : Nat → Nat) :=
      range (shift (max first low)) (if max first low ≤ min last high then shift (min last high) else 0)
    union (range first last) (union (shifted 65 90 (· + 32)) (shifted 97 122 (· - 32)))
  | union a b => union a.anyCase b.anyCase
  | complement a => complement a.anyCase

end CharSet

/-- A pattern. -/
inductive Pattern where
  | empty
  | one (set : CharSet)
  | atStart
  | atEnd
  | seq (a b : Pattern)
  /-- Either of two, the first by preference. -/
  | either (a b : Pattern)
  /-- Any number of times; as many as possible, or as few. -/
  | many (greedy : Bool) (a : Pattern)
deriving DecidableEq, Repr

namespace Pattern

/-! ## Matching -/

/-- Add a place behind the others, unless it is among them. -/
def addPlace (found : List Nat) (i : Nat) : List Nat :=
  if found.contains i then found else found ++ [i]

/-- The places reached by repeating a step, behind those found before. A repetition that moves
nowhere is the last of its kind. No way is longer than `fuel`. -/
def reach (greedy : Bool) (step : Nat → List Nat) : Nat → List Nat → Nat → List Nat
  | 0, found, i => addPlace found i
  | fuel + 1, found, i =>
    if found.contains i then found
    else
      let onward (found : List Nat) := (step i).foldl (fun found j =>
        if j = i then addPlace found i else reach greedy step fuel found j) found
      if greedy then addPlace (onward found) i else onward (addPlace found i)

/-- The places where a match that begins at a place may end, the preferred one first. -/
def ends (text : Array Char) : Pattern → Nat → List Nat
  | empty, i => [i]
  | one set, i => if (text[i]?).any fun c => set.holds c.toNat then [i + 1] else []
  | atStart, i => if i = 0 then [i] else []
  | atEnd, i => if i = text.size then [i] else []
  | seq a b, i => ((ends text a i).flatMap (ends text b)).foldl addPlace []
  | either a b, i => (ends text a i ++ ends text b i).foldl addPlace []
  | many greedy a, i => reach greedy (ends text a) (text.size - i) [] i

/-- Whether the preferred match is the whole text. -/
def isMatch (p : Pattern) (text : String) : Bool :=
  let s := text.toList.toArray
  (p.ends s 0).head? == some s.size

/-! ## Reading -/

/-- How a pattern is read: whether letters stand for both cases, whether a dot stands for a line
feed too, and whether repetitions are short unless marked. -/
structure Mode where
  anyCase : Bool
  dotAll : Bool
  short : Bool
deriving DecidableEq, Repr

/-- How a pattern is read at first. -/
def Mode.plain : Mode := ⟨false, false, false⟩

/-- One character of a set. -/
def ofSet (m : Mode) (set : CharSet) : Pattern := one (if m.anyCase then set.anyCase else set)

/-- The digits. What patterns are held against is ASCII, and so are the named sets. -/
def digits : CharSet := .range 48 57

/-- The characters of words. -/
def wordChars : CharSet := .ofRanges [(48, 57), (65, 90), (95, 95), (97, 122)]

/-- The blank characters. -/
def spaces : CharSet := .ofRanges [(9, 13), (32, 32)]

/-- The sets named in brackets. -/
def namedSets : List (String × CharSet) :=
  [("alnum", .ofRanges [(48, 57), (65, 90), (97, 122)]), ("alpha", .ofRanges [(65, 90), (97, 122)]),
    ("ascii", .range 0 127), ("blank", .ofRanges [(9, 9), (32, 32)]), ("cntrl", .ofRanges [(0, 31), (127, 127)]),
    ("digit", digits), ("graph", .range 33 126), ("lower", .range 97 122), ("print", .range 32 126),
    ("punct", .ofRanges [(33, 47), (58, 64), (91, 96), (123, 126)]), ("space", spaces),
    ("upper", .range 65 90), ("word", wordChars), ("xdigit", .ofRanges [(48, 57), (65, 70), (97, 102)])]

/-- The character of so many hexadecimal digits. -/
def hexChar? (count : Nat) (s : List Char) : Option (CharSet × List Char) :=
  let ds := s.take count
  let n := hexNumber ds
  if ds.length = count ∧ ds.all (fun c => (hexDigit? c).isSome) ∧ n.isValidChar then
    some (.range n n, s.drop count)
  else none

/-- The set of an escape, after its backslash. Escaped signs stand for themselves. -/
def escape? : List Char → Option (CharSet × List Char)
  | 'd' :: rest => some (digits, rest)
  | 'D' :: rest => some (.complement digits, rest)
  | 'w' :: rest => some (wordChars, rest)
  | 'W' :: rest => some (.complement wordChars, rest)
  | 's' :: rest => some (spaces, rest)
  | 'S' :: rest => some (.complement spaces, rest)
  | 'n' :: rest => some (.single '\n', rest)
  | 't' :: rest => some (.single '\t', rest)
  | 'r' :: rest => some (.single '\r', rest)
  | 'a' :: rest => some (.single '\x07', rest)
  | 'f' :: rest => some (.single '\x0C', rest)
  | 'v' :: rest => some (.single '\x0B', rest)
  | 'x' :: rest => hexChar? 2 rest
  | 'u' :: rest => hexChar? 4 rest
  | 'U' :: rest => hexChar? 8 rest
  | c :: rest =>
    if c.toNat < 128 ∧ !c.isAlphanum ∧ c != '<' ∧ c != '>' then some (.single c, rest) else none
  | [] => none

/-- The code point of a set of one character. -/
def lone? : CharSet → Option Nat
  | .range a b => if a = b then some a else none
  | _ => none

/-- A named set, after its opening bracket and colon. -/
def named? (s : List Char) : Option (CharSet × List Char) :=
  let (negated, s) := match s with
    | '^' :: rest => (true, rest)
    | s => (false, s)
  let name := s.takeWhile Char.isAlpha
  match s.drop name.length with
  | ':' :: ']' :: rest =>
    ((namedSets.find? (·.1.toList == name)).map Prod.snd).map fun set =>
      (if negated then .complement set else set, rest)
  | _ => none

/-- Split the sign of a complement off. -/
def caret : List Char → Bool × List Char
  | '^' :: rest => (true, rest)
  | s => (false, s)

/-- The rest of a bracketed set, of which `acc` has been read. A closing bracket is a member where
nothing has been read, and so are hyphens at the front, that is while `first` holds. -/
def members? : Nat → Bool → Option CharSet → List Char → Option (CharSet × List Char)
  | 0, _, _, _ => none
  | fuel + 1, first, acc, s =>
    let add (set : CharSet) := some (match acc with | some a => .union a set | none => set)
    -- one member, which may be the beginning of a range
    let member (set : CharSet) (rest : List Char) : Option (CharSet × List Char) :=
      match rest with
      | '-' :: ']' :: _ => members? fuel false (add set) rest
      | '-' :: '-' :: _ => none
      | '-' :: rest => do
        let (last, rest) ← match rest with
          | '\\' :: rest => escape? rest
          | c :: rest => some (.single c, rest)
          | [] => none
        let a ← lone? set
        let b ← lone? last
        if a ≤ b then members? fuel false (add (.range a b)) rest else none
      | rest => members? fuel false (add set) rest
    match s with
    | [] => none
    | ']' :: rest =>
      match acc with
      | some set => some (set, rest)
      | none => member (.single ']') rest
    | '[' :: ':' :: rest => do
      let (set, rest) ← named? rest
      members? fuel false (add set) rest
    | '[' :: rest => do
      let (negated, rest) := caret rest
      let (set, rest) ← members? fuel true none rest
      members? fuel false (add (if negated then .complement set else set)) rest
    | '\\' :: rest => do
      let (set, rest) ← escape? rest
      member set rest
    | '-' :: rest =>
      if first then members? fuel true (add (.single '-')) rest
      else match rest with
        | ']' :: _ => members? fuel false (add (.single '-')) rest
        | _ => member (.single '-') rest
    | '&' :: '&' :: _ => none
    | '~' :: '~' :: _ => none
    | c :: rest => member (.single c) rest

/-- A pattern or nothing, the pattern by preference or not. -/
def optional (greedy : Bool) (p : Pattern) : Pattern :=
  if greedy then either p empty else either empty p

/-- The marks behind an atom, each of which repeats what stands before it. -/
def repeated (m : Mode) : List Char → Pattern → Option (Pattern × List Char)
  | '*' :: '?' :: rest, p => repeated m rest (many m.short p)
  | '*' :: rest, p => repeated m rest (many (!m.short) p)
  | '+' :: '?' :: rest, p => repeated m rest (seq p (many m.short p))
  | '+' :: rest, p => repeated m rest (seq p (many (!m.short) p))
  | '?' :: '?' :: rest, p => repeated m rest (optional m.short p)
  | '?' :: rest, p => repeated m rest (optional (!m.short) p)
  | '\x7b' :: _, _ => none
  | s, p => some (p, s)

/-- What repeats, and so cannot stand where there is nothing to repeat. -/
def isMark (c : Char) : Bool := c == '*' || c == '+' || c == '?' || c == '\x7b'

/-- Change how a pattern is read by letters; behind a hyphen they take away. -/
def Mode.changed (on : Bool) (m : Mode) : List Char → Option Mode
  | [] => some m
  | '-' :: rest => if on ∧ !rest.isEmpty then Mode.changed false m rest else none
  | 'i' :: rest => Mode.changed on { m with anyCase := on } rest
  | 's' :: rest => Mode.changed on { m with dotAll := on } rest
  | 'U' :: rest => Mode.changed on { m with short := on } rest
  | 'm' :: rest => Mode.changed on m rest
  | 'u' :: rest => if on then Mode.changed on m rest else none
  | _ :: _ => none

/-- The letters in front of a group. -/
def isModeLetter (c : Char) : Bool := c.isAlpha || c == '-'

/-- Skip the name of a group. -/
def afterName? (s : List Char) : Option (List Char) :=
  let name := s.takeWhile fun c => c.isAlphanum || c == '_' || c == '.' || c == '[' || c == ']'
  match name, s.drop name.length with
  | c :: _, '>' :: rest => if c.isAlpha ∨ c = '_' then some rest else none
  | _, _ => none

mutual

/-- Alternatives, up to a closing bracket or the end. -/
def alternatives? : Nat → Mode → List Char → Option (Pattern × List Char)
  | 0, _, _ => none
  | fuel + 1, m, s => do
    let (p, m, rest) ← sequence? fuel m s
    match rest with
    | '|' :: rest =>
      let (q, rest) ← alternatives? fuel m rest
      return (either p q, rest)
    | rest => return (p, rest)

/-- Atoms with their marks, one after the other, and how what follows is read. -/
def sequence? : Nat → Mode → List Char → Option (Pattern × Mode × List Char)
  | 0, _, _ => none
  | fuel + 1, m, s =>
    match s with
    | [] => some (empty, m, [])
    | '|' :: _ => some (empty, m, s)
    | ')' :: _ => some (empty, m, s)
    | '(' :: '?' :: rest =>
      let letters := rest.takeWhile isModeLetter
      match letters.isEmpty, rest.drop letters.length with
      | false, ')' :: rest => do
        let m ← Mode.changed true m letters
        match rest with
        | c :: _ => if isMark c then none
        | [] => pure ()
        sequence? fuel m rest
      | _, _ => do
        let (p, rest) ← group? fuel m ('?' :: rest)
        followed? fuel m p rest
    | '(' :: rest => do
      let (p, rest) ← group? fuel m rest
      followed? fuel m p rest
    | '[' :: rest => do
      let (negated, rest) := caret rest
      let (set, rest) ← members? (rest.length + 1) true none rest
      let p := if negated then one (.complement (if m.anyCase then set.anyCase else set)) else ofSet m set
      followed? fuel m p rest
    | '.' :: rest =>
      followed? fuel m (one (if m.dotAll then .range 0 0x10FFFF else .complement (.single '\n'))) rest
    | '^' :: rest => followed? fuel m atStart rest
    | '$' :: rest => followed? fuel m atEnd rest
    | '\\' :: 'A' :: rest => followed? fuel m atStart rest
    | '\\' :: 'z' :: rest => followed? fuel m atEnd rest
    | '\\' :: rest => do
      let (set, rest) ← escape? rest
      followed? fuel m (ofSet m set) rest
    | c :: rest =>
      if isMark c then none else followed? fuel m (ofSet m (.single c)) rest

/-- An atom with its marks, and what follows in the sequence. -/
def followed? : Nat → Mode → Pattern → List Char → Option (Pattern × Mode × List Char)
  | 0, _, _, _ => none
  | fuel + 1, m, p, s => do
    let (p, rest) ← repeated m s p
    let (q, m, rest) ← sequence? fuel m rest
    return (seq p q, m, rest)

/-- A group, after its opening bracket. -/
def group? : Nat → Mode → List Char → Option (Pattern × List Char)
  | 0, _, _ => none
  | fuel + 1, m, s => do
    let (m, s) ← match s with
      | '?' :: 'P' :: '<' :: rest => (afterName? rest).map (m, ·)
      | '?' :: '<' :: rest => (afterName? rest).map (m, ·)
      | '?' :: rest =>
        let letters := rest.takeWhile isModeLetter
        match rest.drop letters.length with
        | ':' :: rest => (Mode.changed true m letters).map (·, rest)
        | _ => none
      | s => some (m, s)
    let (p, rest) ← alternatives? fuel m s
    match rest with
    | ')' :: rest => return (p, rest)
    | _ => none

end

/-- Read a pattern that is the whole text. -/
def parse? (text : String) : Option Pattern := do
  let s := text.toList
  let (p, rest) ← alternatives? (4 * s.length + 4) .plain s
  if rest.isEmpty then return p else none

end Pattern

end ReportServer.Text
