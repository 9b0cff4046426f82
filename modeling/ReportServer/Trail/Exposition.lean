import ReportServer.Trail.Measure

/-!
# Exposition

The text in which the server shows what it has measured. Every series has a line for its kind, and
a line per set of labels; a histogram has one line for each bucket, cumulative, and one each for
sum and count. Where the values depend on the clock there is only the count.
-/

namespace ReportServer.Trail

/-- The bounds of the buckets, in thousandths, with their text. -/
def bucketBounds : List (Nat × String) :=
  [(1, "0.001"), (5, "0.005"), (10, "0.01"), (50, "0.05"), (100, "0.1"), (200, "0.2"),
    (500, "0.5"), (1000, "1"), (2000, "2"), (5000, "5"), (10000, "10"), (30000, "30"),
    (60000, "60")]

/-- The characters of a label value, escaped. `pending` says that a backslash was read and not
yet written: another one completes it to an escaped backslash, a quote is what it escapes, and in
front of anything else it is escaped itself. -/
def escapeLabelChars (pending : Bool) : List Char → List Char
  | [] => if pending then ['\\', '\\'] else []
  | '\n' :: rest => '\\' :: 'n' :: escapeLabelChars pending rest
  | '"' :: rest => '\\' :: '"' :: escapeLabelChars false rest
  | '\\' :: rest =>
    if pending then '\\' :: '\\' :: escapeLabelChars false rest else escapeLabelChars true rest
  | c :: rest =>
    if pending then '\\' :: '\\' :: c :: escapeLabelChars false rest
    else c :: escapeLabelChars false rest

/-- A label value that may stand in quotes. Escapes that it already holds are kept. -/
def escapeLabel (s : String) : String := String.ofList (escapeLabelChars false s.toList)

/-- Labels in braces, nothing without labels. -/
def labelText (labels : List (String × String)) : String :=
  if labels.isEmpty then ""
  else "\x7b" ++ ",".intercalate (labels.map fun (k, v) => k ++ "=\"" ++ escapeLabel v ++ "\"") ++ "\x7d"

/-- A line of a series. -/
def seriesLine (name : String) (labels : List (String × String)) (value : Nat) : String :=
  name ++ labelText labels ++ " " ++ toString value

/-- The points of one series with one set of labels. -/
structure Series where
  kind : SeriesKind
  name : String
  labels : List (String × String)
  values : List (Option Nat)
deriving DecidableEq, Repr

/-- Add a point to the series it belongs to, or begin one. -/
def addPoint (p : Point) : List Series → List Series
  | [] => [⟨p.kind, p.name, p.labels, [p.value]⟩]
  | s :: rest =>
    if s.name = p.name ∧ s.labels = p.labels then { s with values := s.values ++ [p.value] } :: rest
    else s :: addPoint p rest

/-- The series of points, in the order in which they begin. -/
def seriesOf (points : List Point) : List Series := points.foldl (fun ss p => addPoint p ss) []

/-- The series of measures. -/
def seriesOfMeasures (ms : List Measure) : List Series := seriesOf (ms.flatMap Measure.points)

namespace Series

/-- The sum of the values that are known. -/
def total (s : Series) : Nat := s.values.foldl (fun n v => n + v.getD 0) 0

/-- The value of a gauge: the last one. -/
def current (s : Series) : Nat := (s.values.getLast?.join).getD 0

/-- Whether all values are known. -/
def isTimeless (s : Series) : Bool := s.values.all Option.isSome

/-- How many known values are within a bound given in thousandths. -/
def within (s : Series) (bound : Nat) : Nat :=
  (s.values.filter fun v => v.any fun n => n * 1000 ≤ bound).length

/-- The lines of a histogram. -/
def histogramLines (s : Series) : List String :=
  let count := seriesLine (s.name ++ "_count") s.labels s.values.length
  if s.isTimeless then
    bucketBounds.map (fun (bound, text) =>
      seriesLine (s.name ++ "_bucket") (s.labels ++ [("le", text)]) (s.within bound)) ++
    [seriesLine (s.name ++ "_bucket") (s.labels ++ [("le", "+Inf")]) s.values.length,
      seriesLine (s.name ++ "_sum") s.labels s.total, count]
  else [count]

/-- The lines of a series. -/
def lines (s : Series) : List String :=
  match s.kind with
  | .counter => [seriesLine s.name s.labels s.total]
  | .gauge => [seriesLine s.name s.labels s.current]
  | .histogram => s.histogramLines

end Series

/-- The name of a kind. -/
def SeriesKind.text : SeriesKind → String
  | counter => "counter"
  | histogram => "histogram"
  | gauge => "gauge"

/-- The lines of all series, each name with the line for its kind in front. -/
def expositionLines (ms : List Measure) : List String :=
  let series := seriesOfMeasures ms
  let names := (series.map fun s => (s.name, s.kind)).eraseDups
  names.flatMap fun (name, kind) =>
    ("# TYPE " ++ name ++ " " ++ kind.text) ::
      (series.filter (·.name == name)).flatMap Series.lines ++ [""]

/-- What the server shows of its measures. -/
def exposition (ms : List Measure) : String :=
  String.join ((expositionLines ms).map (· ++ "\n"))

end ReportServer.Trail
