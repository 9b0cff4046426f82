import ReportServer.Text.Alphanumeric
import ReportServer.Text.Blank
import ReportServer.Text.Pattern
import ReportServer.Text.Utf8
import ReportServer.Trail.Event

/-!
# What is written to the log

A filter is a list of directives with commas between them. A directive gives a rank, for all places
or for those whose path begins with its own, and it may ask for a span of a name, for a field, and
for a value of that field.

Directives decide in two ways. Those that name no span and no value decide about an event by what
it is: of those that fit, the most specific one. Those that name a span or a field decide about the
spans they fit: within such a span everything up to their rank is written. One that names a field
alone does both.
-/

namespace ReportServer.Trail

/-- What a directive asks of the value of a field. -/
inductive ValueTest where
  /-- A number or a truth value. The values of spans are texts, so none is equal to it. -/
  | typed (text : String)
  | pattern (text : String) (p : Text.Pattern)
deriving DecidableEq, Repr

/-- A field that a directive asks for, and perhaps its value. -/
structure FieldTest where
  name : String
  value : Option ValueTest
deriving DecidableEq, Repr

/-- One directive of a filter. -/
structure Directive where
  target : Option String
  span : Option String
  field : Option FieldTest
  rank : Nat
deriving DecidableEq, Repr

/-! ## Reading directives -/

/-- The number of a text of digits that fits 64 bits; a plus may stand in front. -/
def rankNumber? (s : List Char) : Option Nat :=
  let ds := match s with
    | '+' :: rest => rest
    | ds => ds
  if ds.isEmpty ∨ !ds.all Char.isDigit then none
  else
    let n := ds.foldl (fun n c => n * 10 + (c.toNat - 48)) 0
    if n < UInt64.size then some n else none

/-- The rank a level stands for, by name in any case or by number; `off` lets nothing through. -/
def rankOf? (s : String) : Option Nat :=
  let names := [("off", 0), ("error", 1), ("warn", 2), ("info", 3), ("debug", 4), ("trace", 5)]
  ((rankNumber? s.toList).filter (· ≤ 5)).or ((names.find? (·.1 == s.toLower)).map Prod.snd)

/-- The rank of a level that may be left out, which lets everything through. -/
def rankOrAll? (s : String) : Option Nat := if s.isEmpty then some Level.trace.rank else rankOf? s

/-- Whether a text is a number, perhaps with a fraction and an exponent, or one of its words. -/
def isNumber (s : String) : Bool :=
  let unsigned (s : List Char) := match s with
    | '+' :: rest => rest
    | '-' :: rest => rest
    | s => s
  let digits (s : List Char) := s.takeWhile Char.isDigit
  let body := unsigned s.toList
  let word := (String.ofList body).toLower
  let whole := digits body
  let rest := body.drop whole.length
  let fraction := match rest with
    | '.' :: rest => digits rest
    | _ => []
  let rest := match rest with
    | '.' :: rest => rest.drop fraction.length
    | rest => rest
  let isExponent := match rest with
    | [] => true
    | e :: rest =>
      let ds := unsigned rest
      (e == 'e' || e == 'E') && !ds.isEmpty && ds.all Char.isDigit
  word == "inf" || word == "infinity" || word == "nan" ||
    (!(whole.isEmpty && fraction.isEmpty) && isExponent)

/-- Read what is asked of a value. -/
def ValueTest.parse? (s : String) : Option ValueTest :=
  if s = "true" ∨ s = "false" ∨ isNumber s then some (.typed s)
  else (Text.Pattern.parse? s).map (.pattern s)

/-- Read what is asked of a field: its name, and perhaps an equals sign and a value. -/
def FieldTest.parse? (s : String) : Option FieldTest :=
  match Text.splitText '=' s with
  | [] => none
  | [name] => if name.isEmpty then none else some ⟨name, none⟩
  | name :: value :: _ => (ValueTest.parse? value).map fun v => ⟨name, some v⟩

/-- Where the reading of a directive is. Parts that are not complete say where they begin. -/
inductive DirectiveState where
  | start
  | front (first : Nat)
  | span (first : Nat)
  | field (first : Nat)
  | afterField
  | afterSpan
  | level (first : Nat)

namespace Directive

/-- A directive that asks for nothing. -/
def all : Directive := ⟨none, none, none, Level.trace.rank⟩

/-- Whether a directive may begin with a character. -/
def isOpening (c : Char) : Bool := c == '-' || c == ':' || c == '_' || Text.isAlphanumeric c

/-- The reading of a directive after one more character, which stands at place `i`. `cut` gives the
text between two places. -/
def next? (cut : Nat → Nat → Option String) (i : Nat) (c : Char) :
    DirectiveState → Directive → Option (DirectiveState × Directive)
  | .start, d =>
    if c = '[' then some (.span (i + 1), d) else if isOpening c then some (.front i, d) else none
  | .front b, d =>
    if c = '=' then (cut b i).map fun t => (.level (i + 1), { d with target := some t })
    else if c = '[' then (cut b i).map fun t => (.span (i + 1), { d with target := some t })
    else some (.front b, d)
  | .span b, d =>
    if c = ']' then (cut b i).map fun t => (.afterSpan, { d with span := some t })
    else if c = '\x7b' then
      (cut b i).map fun t => (.field (i + 1), { d with span := if t.isEmpty then none else some t })
    else some (.span b, d)
  | .field b, d =>
    if c = '\x7d' then ((cut b i).bind FieldTest.parse?).map fun f => (.afterField, { d with field := some f })
    else some (.field b, d)
  | .afterField, d => if c = ']' then some (.afterSpan, d) else none
  | .afterSpan, d => if c = '=' then some (.level (i + 1), d) else none
  | .level b, d => some (.level b, d)

/-- The directive when there are no more characters. A text without an equals sign is a level if it
can be one, and a path otherwise. -/
def finish? (tail : Nat → Option String) : DirectiveState → Directive → Option Directive
  | .front b, d => (tail b).map fun t =>
    match rankOf? t with
    | some rank => { d with rank := rank }
    | none => { d with target := some t }
  | .level b, d => ((tail b).bind rankOrAll?).map fun rank => { d with rank := rank }
  | .afterSpan, d => some d
  | _, _ => none

/-- Read a directive from a place on. -/
def parseFrom? (cut : Nat → Nat → Option String) (tail : Nat → Option String) (i : Nat)
    (state : DirectiveState) (d : Directive) : List Char → Option Directive
  | [] => finish? tail state d
  | c :: rest => do
    let (state, d) ← next? cut i c state d
    parseFrom? cut tail (i + c.utf8Size) state d rest

/-- Read a directive. Blanks around it are skipped in reading, but its parts are cut out of the
text at the places they would have without the blanks; so blanks at the end belong to what stands
there, and blanks at the front move all parts. -/
def parse? (s : String) : Option Directive :=
  let bytes := Text.utf8 s
  let cut (a b : Nat) := Text.ofUtf8? ((bytes.take b).drop a)
  parseFrom? cut (fun a => cut a bytes.length) 0 .start all (Text.trim s).toList

/-! ## What a directive is about -/

/-- Whether it asks for a value. -/
def asksValue (d : Directive) : Bool := d.field.any (·.value.isSome)

/-- Whether it decides about events by what they are. -/
def isStatic (d : Directive) : Bool := d.span.isNone && !d.asksValue

/-- Whether it decides about spans. -/
def isDynamic (d : Directive) : Bool := d.span.isSome || d.field.isSome

/-- Whether it is about a place. -/
def fitsTarget (d : Directive) (target : String) : Bool :=
  d.target.all fun t => t.toList.isPrefixOf target.toList

/-- Whether it asks for the same as another one. -/
def sameTest (d e : Directive) : Bool := d.target == e.target && d.span == e.span && d.field == e.field

/-- Whether it is about what stands at a place and has fields of some names. Where there are no
names to ask, no field is asked for. -/
def fits (d : Directive) (target : String) (names : Option (List String)) : Bool :=
  d.fitsTarget target && (d.field.all fun f => names.all (·.contains f.name))

/-- Whether it is at most as specific as another one: its path is not longer, and it does not ask
for a field where the other asks for none. -/
def atMost (d e : Directive) : Bool :=
  let size (d : Directive) := (d.target.map fun t => t.utf8ByteSize + 1).getD 0
  size d < size e ||
    (size d == size e && match d.field, e.field with
      | none, _ => true
      | some _, none => false
      | some f, some g => !(g.name < f.name))

/-- Whether it is about a span, whatever the values of its fields. -/
def concerns (d : Directive) (s : Span) : Bool :=
  d.fitsTarget s.target && d.span.all (· == s.name) && d.field.all fun f => s.fields.any (·.1 == f.name)

/-- Whether the values of a span are what is asked for. -/
def holdsOf (d : Directive) (s : Span) : Bool :=
  d.field.all fun f =>
    match f.value with
    | none => true
    | some (.typed _) => false
    | some (.pattern _ p) => s.fields.any fun (name, value) => name == f.name && p.isMatch value

end Directive

/-! ## Filters -/

/-- A filter: its directives, and the rank above which nothing is looked at. -/
structure Filter where
  directives : List Directive
  ceiling : Nat
deriving DecidableEq, Repr

namespace Filter

/-- A filter that lets nothing through. -/
def silent : Filter := ⟨[], 0⟩

/-- Put a directive behind others. One that asks for the same gives way. -/
def addDirective (ds : List Directive) (d : Directive) : List Directive :=
  ds.filter (fun e => !e.sameTest d) ++ [d]

/-- The filter of some directives. If values are asked for, everything has to be looked at. -/
def ofDirectives (ds : List Directive) : Filter :=
  ⟨ds.foldl addDirective [],
    if ds.any Directive.asksValue then Level.trace.rank else (ds.map Directive.rank).foldl max 0⟩

/-- Read a filter. Directives that cannot be read are left out; without any, errors are written. -/
def parse (s : String) : Filter :=
  match ((Text.splitText ',' s).filter (!·.isEmpty)).filterMap Directive.parse? with
  | [] => ofDirectives [{ Directive.all with rank := Level.error.rank }]
  | ds => ofDirectives ds

/-- The rank up to which something is written for what it is: that of the most specific directive. -/
def staticRank (f : Filter) (target : String) (names : Option (List String)) : Nat :=
  let fitting := f.directives.filter fun d => d.isStatic && d.fits target names
  match fitting with
  | [] => 0
  | d :: ds => (ds.foldl (fun best d => if best.atMost d then d else best) d).rank

/-- The rank up to which everything within a span is written, if directives are about it. -/
def rankWithin? (f : Filter) (s : Span) : Option Nat :=
  match f.directives.filter fun d => d.isDynamic && d.concerns s with
  | [] => none
  | ds => some (((ds.filter (·.holdsOf s)).map Directive.rank).foldl max 0)

/-- The ranks of the spans that something happens within, those that directives are about. -/
def ranksWithin (f : Filter) (spans : List Span) : List Nat :=
  spans.filterMap fun s => if s.level.rank ≤ f.ceiling then f.rankWithin? s else none

/-- Whether a span is opened within others. Spans that directives are about are, unless they are
above everything that is looked at. -/
def opens (f : Filter) (around : List Span) (s : Span) : Bool :=
  match f.rankWithin? s with
  | some _ => s.level.rank ≤ f.ceiling
  | none => s.level.rank ≤ f.staticRank s.target none || (f.ranksWithin around).any (s.level.rank ≤ ·)

/-- Whether an event is written. -/
def writes (f : Filter) (e : Event) : Bool :=
  e.level.rank ≤ f.staticRank e.target (some e.fieldNames) ||
    (f.ranksWithin e.spans).any (e.level.rank ≤ ·)

end Filter

end ReportServer.Trail
