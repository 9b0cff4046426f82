import ReportServer.Api.Exchange

/-!
# What the layers make of an answer

Every layer does something to the answer of the layer inside it and notes something besides. What is
noted does not change the answer, so the way back through all layers is one function of the answer
of the handler, `finished`, and what a caller gets of its body is a function of the answer alone.
Whatever is to be said about all answers of the server can be said about `finished` and `dispatch`.
-/

namespace ReportServer.Api

open Http (Request Response Route)

namespace App

/-! ## The way back -/

/-- The answer of a handler once it has passed the time limit, compression and the common headers. -/
def handled (a : App) (s : Surroundings) (r : Request) (answer : Response) : Response :=
  if s.overdue then .bare 408 else Http.compressed r.headers (securityHeaders a.hsts answer)

/-- The answer of a handler once it has passed the layers that every request but a preflight reaches. -/
def answered (a : App) (s : Surroundings) (r : Request) (answer : Response) : Response :=
  if r.isOptions then a.cors.preflight r.headers
  else ((a.handled s r answer).mapHeaders (·.set "x-request-id" (idOf s.freshId r))).mapHeaders
    (· ++ a.cors.headers r.headers)

/-- The answer of a handler once it has passed all layers. -/
def finished (a : App) (s : Surroundings) (r : Request) (answer : Response) : Response :=
  let x := a.answered s r answer
  if r.method = "HEAD" then x.withoutBody
  else if r.isRead ∨ (Route.ofPath r.path).isNone then x
  else x.mapHeaders (·.set "allow" allowedMethods)

variable (a : App) (s : Surroundings) (r : Request) (inner : Handler)

theorem value_limited : (limited s.limit inner r).value
    = if s.overdue then .bare 408 else (inner r).value := by
  rw [Surroundings.overdue]
  cases s.limit <;> rfl

theorem value_shared (policy : Http.CorsPolicy) : (shared policy inner r).value
    = if r.isOptions then policy.preflight r.headers
      else (inner r).value.mapHeaders (· ++ policy.headers r.headers) := by
  rw [shared]
  split <;> rfl

theorem value_routed : (routed inner r).value
    = if r.method = "HEAD" then (inner r).value.withoutBody
      else if r.isRead ∨ (Route.ofPath r.path).isNone then (inner r).value
      else (inner r).value.mapHeaders (·.set "allow" allowedMethods) := by
  simp only [routed, Trail.Traced.value_bind]
  split
  · rfl
  · split <;> rfl

theorem value_identified : (identified s.freshId (counted (limited s.limit
      (compressing (secured a.hsts inner)))) r).value
    = (a.handled s r (inner r).value).mapHeaders (·.set "x-request-id" (idOf s.freshId r)) := by
  show (limited s.limit (compressing (secured a.hsts inner)) r).value.mapHeaders
    (·.set "x-request-id" (idOf s.freshId r)) = _
  rw [value_limited]
  rfl

/-- **The answer to a request** is what the layers make of the answer of its handler. -/
theorem value_respond : (a.respond s r).value = a.finished s r (a.dispatch s r).value := by
  rw [respond, value_routed, value_shared, value_identified]
  rfl

/-- Only the policies of the server and what a request finds around it play a part on the way back. -/
theorem finished_congr {a b : App} {s t : Surroundings} (hhsts : a.hsts = b.hsts)
    (hcors : a.cors = b.cors) (hid : s.freshId = t.freshId) (hoverdue : s.overdue = t.overdue)
    (answer : Response) : a.finished s r answer = b.finished t r answer := by
  unfold finished answered handled
  rw [hhsts, hcors, hid, hoverdue]

/-! ## What the layers leave alone -/

/-- The headers that the layers give to answers that are not compressed. -/
def layerHeaders : List String :=
  ["x-content-type-options", "x-frame-options", "x-xss-protection", "cache-control", "strict-transport-security",
    "vary", "x-request-id", "access-control-allow-origin"]

theorem all_corsHeaders_of_ne {name : String} (hvary : "vary" ≠ name)
    (horigin : "access-control-allow-origin" ≠ name) (p : Http.CorsPolicy) (h : Http.Headers) :
    (p.headers h).all name = [] := by
  rw [Http.CorsPolicy.headers, Http.CorsPolicy.originHeader]
  split <;> simp [Http.Headers.all, Http.CorsPolicy.varyHeader, hvary, horigin]

/-- The headers that every answer is given, or every file. -/
def commonHeaders : List String :=
  ["x-content-type-options", "x-frame-options", "x-xss-protection", "cache-control", "strict-transport-security"]

theorem all_securityHeaders_of_common {name : String} (hn : name ∉ commonHeaders) (hsts : Bool) (x : Response) :
    (securityHeaders hsts x).headers.all name = x.headers.all name := by
  have hset : ∀ (h : Http.Headers) {other value : String}, other ∈ commonHeaders →
      (h.set other value).all name = h.all name := fun _ _ _ ho =>
    Http.Headers.all_set_of_ne fun he => hn (he ▸ ho)
  -- the last two are set for some answers only
  have hsometimes : ∀ (c : Prop) [Decidable c] (h : Http.Headers) {other value : String}, other ∈ commonHeaders →
      (if c then h.set other value else h).all name = h.all name := by
    intro c _ h other value ho
    split
    · exact hset h ho
    · rfl
  rw [securityHeaders, Response.mapHeaders]
  dsimp only
  rw [hsometimes _ _ (by decide), hsometimes _ _ (by decide), hset _ (by decide), hset _ (by decide),
    hset _ (by decide)]

/-- The headers that compression touches. -/
def compressionHeaders : List String := ["vary", "content-length", "content-encoding"]

theorem all_compressed_of_notMem {name : String} (hn : name ∉ compressionHeaders) (h : Http.Headers) (x : Response) :
    (Http.compressed h x).headers.all name = x.headers.all name := by
  have hne : ∀ other ∈ compressionHeaders, other ≠ name := fun other ho he => hn (he ▸ ho)
  have hvary : (x.headers.add "vary" "accept-encoding").all name = x.headers.all name :=
    Http.Headers.all_add_of_ne (hne _ (by decide))
  rw [Http.compressed]
  split
  · split
    · exact (Http.Headers.all_set_of_ne (hne _ (by decide))).trans
        ((Http.Headers.all_remove_of_ne (hne _ (by decide))).trans hvary)
    · exact hvary
  · rfl

section Unchanged

variable {a s r} {x : Response} {name : String} (hn : name ∉ layerHeaders)
include hn

theorem ne_of_mem_layerHeaders {other : String} (ho : other ∈ layerHeaders) : other ≠ name :=
  fun he => hn (he ▸ ho)

theorem all_securityHeaders (hsts : Bool) : (securityHeaders hsts x).headers.all name = x.headers.all name :=
  all_securityHeaders_of_common (fun hc => hn (List.mem_append_left ["vary", "x-request-id",
    "access-control-allow-origin"] hc)) hsts x

theorem all_compressed {h : Http.Headers} (hg : Http.prefersGzip h = false) :
    (Http.compressed h x).headers.all name = x.headers.all name := by
  rw [Http.compressed]
  split
  · rw [hg]
    exact Http.Headers.all_add_of_ne (ne_of_mem_layerHeaders hn (by decide))
  · rfl

theorem all_corsHeaders (p : Http.CorsPolicy) (h : Http.Headers) : (p.headers h).all name = [] :=
  all_corsHeaders_of_ne (ne_of_mem_layerHeaders hn (by decide)) (ne_of_mem_layerHeaders hn (by decide)) p h

end Unchanged

/-- The body of an answer that is in time is the handler's, but for a request that asks for none. -/
theorem body_finished {r : Request} (hopt : r.isOptions = false) (hs : s.overdue = false) (x : Response) :
    (a.finished s r x).body = if r.method = "HEAD" then x.withoutBody.body else x.body := by
  have hcompressed : (Http.compressed r.headers (securityHeaders a.hsts x)).body = x.body := by
    unfold Http.compressed
    split
    · split <;> rfl
    · rfl
  have hanswered : (a.answered s r x).body = x.body := by
    rw [answered, hopt, handled, hs]
    exact hcompressed
  rw [finished]
  split
  · rw [Response.withoutBody, Response.withoutBody, hanswered]
  · split <;> exact hanswered

/-- The answer to a request that gets and is in time. -/
theorem finished_of_get {r : Request} (hget : r.method = "GET") (hs : s.overdue = false) (x : Response) :
    a.finished s r x = ((Http.compressed r.headers (securityHeaders a.hsts x)).mapHeaders
      (·.set "x-request-id" (idOf s.freshId r))).mapHeaders (· ++ a.cors.headers r.headers) := by
  simp [finished, answered, handled, Request.isOptions, Request.isRead, hget, hs]

/-- Its body is the handler's, -/
theorem finished_body {r : Request} (hget : r.method = "GET") (hs : s.overdue = false) (x : Response) :
    (a.finished s r x).body = x.body := by
  rw [body_finished a s (by simp [Request.isOptions, hget]) hs, if_neg (by simp [hget])]

/-- and so are its headers, but for those of the layers. -/
theorem all_finished {r : Request} (hget : r.method = "GET") (hs : s.overdue = false)
    (hg : Http.prefersGzip r.headers = false) {name : String} (hn : name ∉ layerHeaders) (x : Response) :
    (a.finished s r x).headers.all name = x.headers.all name := by
  rw [finished_of_get a s hget hs]
  simp only [Response.mapHeaders]
  rw [Http.Headers.all_append, all_corsHeaders hn, List.append_nil,
    Http.Headers.all_set_of_ne (ne_of_mem_layerHeaders hn (by decide)), all_compressed hn hg,
    all_securityHeaders hn]

end App

/-! ## What a caller gets of the body -/

/-- What a caller gets of the body of an answer, if it is read to its end. -/
def shownBody (mode : Delivery.ReadMode) (answer : Response) : Option (List UInt8) :=
  let shown (bytes : List UInt8) := if mode = .toEnd then some bytes else none
  let read := if answer.isCompressed then Delivery.readCompressed else Delivery.read
  match answer.body with
  | .text text => shown (Text.utf8 text)
  | .stream e => shown (read mode e.publication).bytes
  | .abandoned _ => shown []

theorem value_finish (record : Export.Record) (moment : Moment) (keepsOpen : Bool)
    (closing : Trail.Traced Unit) (answer : Response) (e : Export.InFlight) (reading : Delivery.Reading)
    (body : Delivery.Reading → Option (List UInt8)) :
    (consume.finish record moment keepsOpen closing answer e reading body).value.response = answer
      ∧ (consume.finish record moment keepsOpen closing answer e reading body).value.body
        = body reading := by
  unfold consume.finish
  split <;> exact ⟨rfl, rfl⟩

/-- **Seeing the body off adds nothing** to the answer, and what is read depends on it alone. -/
theorem value_consume (record : Export.Record) (moment : Moment) (mode : Delivery.ReadMode)
    (keepsOpen : Bool) (closing : Trail.Traced Unit) (answer : Response) :
    (consume record moment mode keepsOpen closing answer).value.response = answer
      ∧ (consume record moment mode keepsOpen closing answer).value.body = shownBody mode answer := by
  cases hb : answer.body with
  | text => simp only [consume, shownBody, hb]; exact ⟨rfl, rfl⟩
  | stream e => simp only [consume, shownBody, hb]; exact value_finish ..
  | abandoned e => simp only [consume, shownBody, hb]; exact value_finish ..

/-- What a caller sees of an exchange: the answer, and its body as far as it is read. -/
theorem value_exchange (a : App) (s : Surroundings) (mode : Delivery.ReadMode) (r : Request) :
    (exchange a s mode r).value.response = (a.respond s r).value
      ∧ (exchange a s mode r).value.body = shownBody mode (a.respond s r).value :=
  value_consume ..

end ReportServer.Api
