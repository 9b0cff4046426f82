import ReportServer.Report.Tracking
import ReportServer.Trail.Filter
import ReportServer.Trail.Measure

/-!
# What happens while an answer is made

A traced value carries, in order, everything that happened while it was made: the calls to
collaborators, the measures taken and the events logged. Making one value after another puts the
one trail behind the other, so a trail only grows.
-/

namespace ReportServer.Trail

/-- A value bound to a parameter of a statement. -/
inductive Param where
  | integer (i : Int64)
  | text (s : Option String)
  | moment (m : Moment)
deriving DecidableEq, Repr

/-- A call to one of the collaborators, or a statement that was sent to the database. -/
inductive Call where
  | lookUp (token : String)
  | list (group : Option String)
  | find (id : Int64)
  | execute (sql : String)
  | record (entry : Report.Tracking)
  | prepare (sql : String)
  | fetch (sql : String) (params : List Param)
deriving DecidableEq, Repr

/-- One thing that happened. -/
inductive Entry where
  | call (c : Call)
  | measure (m : Measure)
  | event (e : Event)
  /-- A span ended. -/
  | ended (s : Span)
deriving Repr

/-- The entry within one more span, if it is an event. -/
def Entry.within (s : Span) : Entry → Entry
  | event e => .event (e.within s)
  | e => e

/-- A value and what happened while it was made. -/
structure Traced (α : Type) where
  value : α
  trail : List Entry

namespace Traced

instance : Monad Traced where
  pure a := ⟨a, []⟩
  bind x f := ⟨(f x.value).value, x.trail ++ (f x.value).trail⟩

/-- Record one thing that happened. -/
def note (e : Entry) : Traced Unit := ⟨(), [e]⟩

/-- Record a call. -/
def call (c : Call) : Traced Unit := note (.call c)

/-- Record a measure. -/
def measure (m : Measure) : Traced Unit := note (.measure m)

/-- Log an event. -/
def log (level : Level) (target message : String) (fields : List (String × Json.Value)) : Traced Unit :=
  note (.event { level, target, message, fields })

/-- What happens within a span. -/
def within {α : Type} (s : Span) (x : Traced α) : Traced α := ⟨x.value, x.trail.map (Entry.within s)⟩

@[simp] theorem value_within {α : Type} (s : Span) (x : Traced α) :
    (x.within s).value = x.value := rfl

@[simp] theorem value_pure {α : Type} (a : α) : (pure a : Traced α).value = a := rfl

@[simp] theorem trail_pure {α : Type} (a : α) : (pure a : Traced α).trail = [] := rfl

@[simp] theorem value_bind {α β : Type} (x : Traced α) (f : α → Traced β) :
    (x >>= f).value = (f x.value).value := rfl

@[simp] theorem trail_bind {α β : Type} (x : Traced α) (f : α → Traced β) :
    (x >>= f).trail = x.trail ++ (f x.value).trail := rfl

end Traced

/-- The call an entry is, if it is one. -/
def Entry.call? : Entry → Option Call
  | call c => some c
  | _ => none

/-- The measure an entry is, if it is one. -/
def Entry.measure? : Entry → Option Measure
  | measure m => some m
  | _ => none

/-- The event an entry is, if it is one. -/
def Entry.event? : Entry → Option Event
  | event e => some e
  | _ => none

/-- The calls of a trail. -/
def calls (trail : List Entry) : List Call := trail.filterMap Entry.call?

/-- The measures of a trail. -/
def measures (trail : List Entry) : List Measure := trail.filterMap Entry.measure?

/-- The events of a trail. -/
def events (trail : List Entry) : List Event := trail.filterMap Entry.event?

@[simp] theorem calls_nil : calls [] = [] := rfl

@[simp] theorem calls_append (a b : List Entry) : calls (a ++ b) = calls a ++ calls b :=
  List.filterMap_append

@[simp] theorem calls_call (c : Call) : calls (Traced.call c).trail = [c] := rfl

@[simp] theorem calls_measure (m : Measure) : calls (Traced.measure m).trail = [] := rfl

@[simp] theorem calls_log (level : Level) (target message : String)
    (fields : List (String × Json.Value)) : calls (Traced.log level target message fields).trail = [] := rfl

@[simp] theorem measures_nil : measures [] = [] := rfl

@[simp] theorem measures_append (a b : List Entry) : measures (a ++ b) = measures a ++ measures b :=
  List.filterMap_append

@[simp] theorem measures_call (c : Call) : measures (Traced.call c).trail = [] := rfl

@[simp] theorem measures_measure (m : Measure) : measures (Traced.measure m).trail = [m] := rfl

@[simp] theorem measures_log (level : Level) (target message : String)
    (fields : List (String × Json.Value)) : measures (Traced.log level target message fields).trail = [] := rfl

/-- The event that is written for an entry, if one is. -/
def Entry.written? (f : Filter) : Entry → Option Event
  | event e => if f.writes e then some e else none
  | ended s => if f.opens [] s then some s.closing else none
  | _ => none

/-- The events of a trail that are written. -/
def written (f : Filter) (trail : List Entry) : List Event := trail.filterMap (Entry.written? f)

theorem calls_within {α : Type} (s : Span) (x : Traced α) :
    calls (x.within s).trail = calls x.trail := by
  simp only [calls, Traced.within, List.filterMap_map]
  congr 1
  funext e
  cases e <;> rfl

theorem measures_within {α : Type} (s : Span) (x : Traced α) :
    measures (x.within s).trail = measures x.trail := by
  simp only [measures, Traced.within, List.filterMap_map]
  congr 1
  funext e
  cases e <;> rfl

end ReportServer.Trail
