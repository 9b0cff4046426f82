import ReportServer.Delivery.Publication

/-!
# Reading a body

How a caller reads the body of a publication: to its end, until enough bytes have arrived, or not
at all. The writer fills the pipe whenever the body has run dry, and the body hands out chunks as
large as they may be. When the caller is done, the body is dropped. A compressor between the body and
the caller reads ahead: small bodies are at their end before the caller has seen a byte.
-/

namespace ReportServer.Delivery

/-- How far a body is read. -/
inductive ReadMode where
  | toEnd
  /-- Until this many bytes have arrived. -/
  | atLeast (bytes : Nat)
  | unread
deriving DecidableEq, Repr

/-- Whether the caller is content with this many bytes. -/
def ReadMode.enough (m : ReadMode) (received : Nat) : Bool :=
  match m with
  | toEnd => false
  | atLeast n => n ≤ received
  | unread => true

/-- The most the writer can push at once. -/
def Publication.pushable (p : Publication) : Nat := min p.unsent.length (pipeCapacity - p.pipe.length)

/-- The steps of the writer when it has its turn and pushes this many bytes. -/
def Publication.writerSteps (p : Publication) (n : Nat) : List Step :=
  (if 0 < n then [.push n] else []) ++ (if n = p.unsent.length ∧ !p.shut then [.shut] else [])

/-- The steps of one pull: the writer's if the pipe is dry, and a chunk as large as it may be. -/
def Publication.pullSteps (p : Publication) : List Step :=
  if p.pipe.isEmpty then
    let n := p.pushable
    p.writerSteps n ++ [.poll (min chunkLimit n)]
  else [.poll (min chunkLimit p.pipe.length)]

/-- What a caller has read, and how. -/
structure Reading where
  /-- The chunks received, in order. -/
  received : List (List UInt8)
  /-- The publication after it. -/
  publication : Publication
  /-- The steps that were taken. -/
  steps : List Step
deriving Repr

namespace Reading

/-- One pull. -/
def next (r : Reading) : Option Reading :=
  let steps := r.publication.pullSteps
  (r.publication.run steps).map fun (p, bytes) =>
    ⟨r.received ++ (if bytes.isEmpty then [] else [bytes]), p, r.steps ++ steps⟩

/-- Pull until the caller is content or the body has ended, at most `fuel` times. -/
def pull (m : ReadMode) : Nat → Reading → Reading
  | 0, r => r
  | fuel + 1, r =>
    if m.enough r.publication.handed ∨ r.publication.body ≠ .reading then r
    else
      match r.next with
      | none => r
      | some r => pull m fuel r

/-- Pull at least once and until the pipe has run dry or the body has ended, at most `fuel` times. -/
def drain : Nat → Reading → Reading
  | 0, r => r
  | fuel + 1, r =>
    match r.next with
    | none => r
    | some r =>
      let p := r.publication
      if p.body = .reading ∧ (!p.pipe.isEmpty ∨ p.shut) then drain fuel r else r

/-- More pulls than a publication needs: one for every byte that is left, and one for the end. -/
def pullsFor (p : Publication) : Nat := p.unsent.length + p.pipe.length + 1

/-- Drop the body when the caller is done. -/
def finish (r : Reading) : Reading :=
  match r.publication.step .drop with
  | some (p, _) => { r with publication := p, steps := r.steps ++ [.drop] }
  | none => r

end Reading

/-- Read a body and drop it. -/
def read (m : ReadMode) (p : Publication) : Reading :=
  (Reading.pull m (Reading.pullsFor p) ⟨[], p, []⟩).finish

/-- How many bytes a compressor hands out before it has come to the end: its header. It keeps what
it has read until then. -/
def compressedHeaderSize : Nat := 10

/-- Read a body through a compressor and drop it. The compressor takes whatever there is before it
hands anything out, so the caller is asked only when the pipe has run dry. -/
def readCompressed (m : ReadMode) (p : Publication) : Reading :=
  let untouched : Reading := ⟨[], p, []⟩
  let fuel := Reading.pullsFor p
  let r := if m.enough 0 then untouched
    else
      let r := untouched.drain fuel
      if m.enough compressedHeaderSize then r else Reading.pull .toEnd fuel r
  r.finish

/-- What was received, as one byte string. -/
def Reading.bytes (r : Reading) : List UInt8 := r.received.flatten

/-- Whether the body was given up before every byte was handed out. -/
def Publication.undelivered (p : Publication) : Bool := p.handed != p.expected

end ReportServer.Delivery
