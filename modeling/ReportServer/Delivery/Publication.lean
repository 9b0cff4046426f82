import ReportServer.Http.Header
import ReportServer.Report.Artifact

/-!
# Publications

The bytes of an artifact travel through a pipe: a writer pushes them in, and the body of the answer
hands them out in chunks. A publication is the state of the two ends. It is settled as soon as the
body ends or is dropped, whichever comes first, and then says whether every byte was handed out;
nothing that happens later changes that.

Writer and body take turns in any order, so the state moves by single steps, and a step that cannot
be taken gives nothing.
-/

namespace ReportServer.Delivery

/-- How many bytes the pipe holds. -/
def pipeCapacity : Nat := 64 * 1024

/-- The most bytes of a chunk. -/
def chunkLimit : Nat := 4096

/-- How a publication was settled. -/
inductive Outcome where
  /-- All bytes were handed out; this is their number. -/
  | delivered (bytes : Nat)
  /-- The body was given up before that. -/
  | sinkClosed
deriving DecidableEq, Repr

/-- Where the body is. -/
inductive BodyState where
  | reading
  | ended
  | dropped
deriving DecidableEq, Repr

/-- The state of a publication. -/
structure Publication where
  /-- How many bytes there are to hand out. -/
  expected : Nat
  /-- The bytes the writer has not pushed yet. -/
  unsent : List UInt8
  /-- The bytes in the pipe. -/
  pipe : List UInt8
  /-- Whether the writer has shut its end. -/
  shut : Bool
  /-- How many bytes the body has handed out. -/
  handed : Nat
  body : BodyState
  outcome : Option Outcome
deriving DecidableEq, Repr

/-- What one of the two ends does. -/
inductive Step where
  /-- The writer pushes this many bytes. -/
  | push (n : Nat)
  /-- The writer shuts its end. -/
  | shut
  /-- The body is asked for bytes; if there are any, it hands out this many. -/
  | poll (n : Nat)
  /-- The body is dropped. -/
  | drop
deriving DecidableEq, Repr

/-- What the body answers when it is asked. -/
inductive Polled where
  | chunk (bytes : List UInt8)
  | pending
  | ended
deriving DecidableEq, Repr

namespace Publication

/-- A publication of which nothing has happened. -/
def start (bytes : List UInt8) : Publication :=
  ⟨bytes.length, bytes, [], false, 0, .reading, none⟩

/-- The outcome if the body goes no further. -/
def verdict (p : Publication) : Outcome :=
  if p.handed = p.expected then .delivered p.handed else .sinkClosed

/-- Settle, unless that has been done. -/
def settle (p : Publication) : Publication :=
  { p with outcome := p.outcome.or (some p.verdict) }

/-- Whether the writer can push this many bytes. -/
def canPush (p : Publication) (n : Nat) : Bool :=
  p.body != .dropped && 0 < n && n ≤ p.unsent.length && p.pipe.length + n ≤ pipeCapacity

/-- Whether this many bytes make a chunk. -/
def canHandOut (p : Publication) (n : Nat) : Bool := 0 < n && n ≤ chunkLimit && n ≤ p.pipe.length

/-- What the body answers, and the state after it. A body that has ended says so whenever it is asked. -/
def poll (p : Publication) (n : Nat) : Option (Publication × Polled) :=
  if p.body == .dropped then none
  else if p.pipe.isEmpty then
    if p.shut then some ({ p.settle with body := .ended }, .ended) else some (p, .pending)
  else if p.canHandOut n then
    some ({ p with pipe := p.pipe.drop n, handed := p.handed + n }, .chunk (p.pipe.take n))
  else none

/-- One step, with what the body answered if it was asked. -/
def step (p : Publication) : Step → Option (Publication × Option Polled)
  | .push n =>
    if p.canPush n then
      some ({ p with unsent := p.unsent.drop n, pipe := p.pipe ++ p.unsent.take n }, none)
    else none
  | .shut =>
    if p.unsent.isEmpty ∧ !p.shut then some ({ p with shut := true }, none) else none
  | .poll n => (p.poll n).map fun r => (r.1, some r.2)
  | .drop => if p.body != .dropped then some ({ p.settle with body := .dropped }, none) else none

/-- The bytes of an answer. -/
def bytesOf : Option Polled → List UInt8
  | some (.chunk bytes) => bytes
  | _ => []

/-- Steps one after the other, with all bytes handed out on the way. -/
def run (p : Publication) : List Step → Option (Publication × List UInt8)
  | [] => some (p, [])
  | s :: rest =>
    match p.step s with
    | none => none
    | some (p', polled) => (run p' rest).map fun r => (r.1, bytesOf polled ++ r.2)

end Publication

/-- Why an artifact could not be published or delivered. -/
inductive PublishError where
  | sinkClosed
  | response (detail : String)
deriving DecidableEq, Repr

/-- The sentence that describes the error. -/
def PublishError.message : PublishError → String
  | sinkClosed => "Response sink closed before the artifact was fully written"
  | response detail => "Failed to build response: " ++ detail

/-- The headers of the answer that hands an artifact out. -/
def headersOf (a : Report.Artifact) : Http.Headers :=
  [("content-type", a.contentType), ("content-disposition", a.disposition),
    ("content-length", toString a.size)]

/-- Publish an artifact: the headers of the answer and the publication behind its body. -/
def publish (a : Report.Artifact) : Except PublishError (Http.Headers × Publication) :=
  if Http.isHeaderValue a.disposition then .ok (headersOf a, .start a.bytes)
  else .error (.response "failed to parse header value")

end ReportServer.Delivery
