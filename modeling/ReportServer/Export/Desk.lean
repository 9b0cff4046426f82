import ReportServer.Export.Service

/-!
# Many exports at once

A desk starts exports and sees them off. Between its start and its end an export is moved on by its
two ends, the writer and the body, and exports take turns in any order. When a publication is
settled the export behind it can be closed, once, and that is when a tracking record may be written.

Every start brings the service it runs against, and every closing the recorder of that moment, so
nothing is assumed about what collaborators answer at different times.
-/

namespace ReportServer.Export

open Trail (Entry)

/-- An export that was started. -/
structure Job where
  reportId : Int64
  user : Directory.User
  /-- How it started: what is under way, or why there is nothing. -/
  start : Except Report.ExportError Offer
  /-- Whether it has been closed. -/
  closed : Bool

/-- The exports that were started, the records that were written, and what happened. -/
structure Desk where
  jobs : List Job
  records : List Report.Tracking
  trail : List Entry

/-- What happens at a desk. -/
inductive Move where
  /-- An export is started. -/
  | start (service : Service) (id : Int64) (user : Directory.User) (moment : Moment)
  /-- One of the ends of an export does something. -/
  | advance (job : Nat) (step : Delivery.Step)
  /-- An export whose publication is settled is closed. -/
  | close (job : Nat) (record : Record) (moment : Moment)

/-- What of an export is under way. -/
def Job.inFlight? (j : Job) : Option InFlight := j.start.toOption.map Offer.inFlight

/-- The export with its publication moved on. -/
def Job.advance (j : Job) (s : Delivery.Step) : Option Job := do
  let o ← j.start.toOption
  let (publication, _) ← o.inFlight.publication.step s
  return { j with start := .ok ⟨o.headers, { o.inFlight with publication := publication }⟩ }

namespace Desk

/-- A desk at which nothing has happened. -/
def idle : Desk := ⟨[], [], []⟩

/-- Start an export. -/
def start (d : Desk) (s : Service) (id : Int64) (user : Directory.User) (moment : Moment) : Desk :=
  let x := s.start id user moment
  ⟨d.jobs ++ [⟨id, user, x.value, false⟩], d.records, d.trail ++ x.trail⟩

/-- Move one of the ends of an export. -/
def advance (d : Desk) (i : Nat) (s : Delivery.Step) : Option Desk := do
  let j ← d.jobs[i]?
  let j ← j.advance s
  return { d with jobs := d.jobs.set i j }

/-- Close an export whose publication is settled. -/
def close (d : Desk) (i : Nat) (record : Record) (moment : Moment) : Option Desk := do
  let j ← d.jobs[i]?
  let e ← j.inFlight?
  let outcome ← e.publication.outcome
  if j.closed then none
  else
    let x : Trail.Traced (Option Report.Tracking) := do
      bodyGone e.publication
      e.settle record moment outcome
    return ⟨d.jobs.set i { j with closed := true }, d.records ++ x.value.toList, d.trail ++ x.trail⟩

/-- One move; nothing if it cannot be made. -/
def step (d : Desk) : Move → Option Desk
  | .start s id user moment => some (d.start s id user moment)
  | .advance i s => d.advance i s
  | .close i record moment => d.close i record moment

/-- Moves one after the other. -/
def run (d : Desk) (moves : List Move) : Option Desk := moves.foldlM step d

/-- The moves of a caller who reads the body of an export and of the server that then closes it. -/
def movesOf (i : Nat) (reading : Delivery.Reading) (record : Record) (moment : Moment) : List Move :=
  reading.steps.map (.advance i) ++ [.close i record moment]

/--
Start an export, and if it starts read its body and close it. The answer is what was offered and
what was read of it.
-/
def serve (d : Desk) (s : Service) (id : Int64) (user : Directory.User) (moment : Moment)
    (mode : Delivery.ReadMode) : Desk × Except Report.ExportError (Offer × Delivery.Reading) :=
  let started := d.start s id user moment
  match (s.start id user moment).value with
  | .error e => (started, .error e)
  | .ok offer =>
    let reading := Delivery.read mode offer.inFlight.publication
    let moves := movesOf d.jobs.length reading s.collaborators.record moment
    ((started.run moves).getD started, .ok (offer, reading))

/-- Whether every export has either failed to start or been closed. -/
def isQuiet (d : Desk) : Bool := d.jobs.all fun j => j.inFlight?.isNone || j.closed

end Desk

end ReportServer.Export
