import ReportServer.Api.Exchange

/-!
# Histories

Exchanges one after the other. If measures are kept, each request finds what was measured before it.
-/

namespace ReportServer.Api

/-- What a caller asks for, and how far the body of the answer is read. -/
structure Ask where
  request : Http.Request
  mode : Delivery.ReadMode
deriving DecidableEq, Repr

/-- An exchange and what happened during it. -/
structure Visit where
  exchange : Exchange
  trail : List Trail.Entry

/-- What a request finds after a trail. -/
def Surroundings.after (s : Surroundings) (before : List Trail.Entry) : Surroundings :=
  { s with measured := s.measured.map (· ++ Trail.measures before) }

/-- The exchanges of requests, one after the other, after what happened before them. -/
def visits (a : App) (s : Surroundings) (before : List Trail.Entry) : List Ask → List Visit
  | [] => []
  | ask :: rest =>
    let x := exchange a (s.after before) ask.mode ask.request
    ⟨x.value, x.trail⟩ :: visits a s (before ++ x.trail) rest

/-- Everything that happened during visits. -/
def trailOf (vs : List Visit) : List Trail.Entry := vs.flatMap Visit.trail

/-- The tracking records that were written during visits, in order. -/
def recordsOf (vs : List Visit) : List Report.Tracking := vs.filterMap fun v => v.exchange.recorded

end ReportServer.Api
