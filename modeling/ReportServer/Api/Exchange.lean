import ReportServer.Api.App

/-!
# Exchanges

An exchange is a request, its answer, and what the caller does with the body. The export behind an
answer is settled when its body is gone, and only then may there be a tracking record.
-/

namespace ReportServer.Api

open Trail (Traced)

/-- What came of an exchange. -/
structure Exchange where
  response : Http.Response
  /-- The body, if it was read to its end. -/
  body : Option (List UInt8)
  /-- The tracking record that was written, if one was. -/
  recorded : Option Report.Tracking
deriving Repr

/-- Read the body of an answer and settle the export behind it. `closing` ends the request. -/
def consume (record : Export.Record) (moment : Moment) (mode : Delivery.ReadMode)
    (bodyKeepsOpen : Bool) (closing : Traced Unit) (response : Http.Response) : Traced Exchange := do
  let shown (bytes : List UInt8) := if mode = .toEnd then some bytes else none
  let read := if response.isCompressed then Delivery.readCompressed else Delivery.read
  match response.body with
  | .text s =>
    closing
    return ⟨response, shown (Text.utf8 s), none⟩
  | .stream e => finish e (read mode e.publication) (fun r => shown r.bytes)
  | .abandoned e => finish e (Delivery.read .unread e.publication) (fun _ => shown [])
where
  /-- What follows when the body of an export is gone. -/
  finish (e : Export.InFlight) (reading : Delivery.Reading)
      (body : Delivery.Reading → Option (List UInt8)) : Traced Exchange := do
    let p := reading.publication
    if bodyKeepsOpen then
      Export.bodyDropped p
      closing
    else
      closing
      Export.bodyDropped p
    Export.writerStopped p
    let recorded ← e.settle record moment p.verdict
    return ⟨response, body reading, recorded⟩

/-- The end of a request in the log. Requests that only ask what they may do are not logged. -/
def closeRequest (s : Surroundings) (r : Http.Request) : Traced Unit :=
  if r.isOptions then pure () else Traced.note (.ended (App.requestSpan s.freshId r))

/-- Whether a body keeps its request open in the log: it does if the log has a span for it. -/
def bodyKeepsOpen (s : Surroundings) (r : Http.Request) : Bool :=
  s.filter.opens [App.requestSpan s.freshId r] (App.handlingSpan r)

/-- Answer a request and see its body off. -/
def exchange (a : App) (s : Surroundings) (mode : Delivery.ReadMode) (r : Http.Request) :
    Traced Exchange := do
  let response ← a.respond s r
  consume a.service.collaborators.record s.moment mode (bodyKeepsOpen s r) (closeRequest s r) response

end ReportServer.Api
