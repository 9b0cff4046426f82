import ReportServer.Export.Service
import ReportServer.Proofs.Traversal

/-!
# How an export starts

Starting an export goes through four stages, each of which may refuse it. Everything later modules
want to know of a start is said here once: what comes of it, as one chain of stages, what it takes for
an offer to be made, and which collaborators were called on the way.
-/

namespace ReportServer.Export

open Report (ExportError Definition)

namespace Service

variable {s : Service} {id : Int64} {user : Directory.User} {moment : Moment}

/-! ## What comes of it -/

theorem value_resolve (s : Service) (id : Int64) :
    (s.resolve id).value = match (s.collaborators.find id).value with
      | .error e => .error e
      | .ok none => .error (.notFound id)
      | .ok (some d) => .ok d := by
  simp only [resolve, Trail.Traced.value_bind]
  cases (s.collaborators.find id).value with
  | error e => rfl
  | ok found => cases found <;> rfl

theorem value_run (s : Service) (id : Int64) (user : Directory.User) (moment : Moment) :
    (s.run id user moment).value = (s.resolve id).value.bind fun d =>
      (s.collaborators.execute d.query).value.bind fun t =>
        (d.encode s.pack t moment).bind (s.offer id user) := by
  simp only [run, Trail.Traced.value_bind]
  cases (s.resolve id).value with
  | error e => rfl
  | ok d =>
      simp only [table, Trail.Traced.value_bind, ok_bind]
      cases (s.collaborators.execute d.query).value with
      | error e => rfl
      | ok t =>
          simp only [ok_bind]
          cases (d.encode s.pack t moment).bind (s.offer id user) <;> rfl

/-- **An export is its four stages**, one after the other; the log and the measures do not change it. -/
theorem value_start (s : Service) (id : Int64) (user : Directory.User) (moment : Moment) :
    (s.start id user moment).value = (s.resolve id).value.bind fun d =>
      (s.collaborators.execute d.query).value.bind fun t =>
        (d.encode s.pack t moment).bind (s.offer id user) := by
  rw [← value_run]
  simp only [start, Trail.Traced.value_bind]
  cases (s.run id user moment).value <;> rfl

/-! ## What it takes -/

theorem resolve_eq_ok {d : Definition} :
    (s.resolve id).value = .ok d ↔ (s.collaborators.find id).value = .ok (some d) := by
  rw [value_resolve]
  cases (s.collaborators.find id).value with
  | error e => simp
  | ok found => cases found <;> simp

/--
`Starts s id user moment d a o`: the store has the definition `d`, its query has an answer that encodes to
the artifact `a`, which can be sent, and `o` is what is offered for it.
-/
structure Starts (s : Service) (id : Int64) (user : Directory.User) (moment : Moment)
    (d : Definition) (a : Report.Artifact) (o : Offer) : Prop where
  /-- The store has a definition of the id. -/
  found : (s.collaborators.find id).value = .ok (some d)
  /-- Its query is answered, and the answer can be encoded. -/
  encoded : ∃ t : Table, (s.collaborators.execute d.query).value = .ok t
    ∧ d.encode s.pack t moment = .ok a
  /-- The file name can stand in a header. -/
  sendable : Http.isHeaderValue a.disposition = true
  /-- The offer is the artifact's, and what will be tracked is the caller's. -/
  offer : o = ⟨Delivery.headersOf a, ⟨id, user.identity,
    Report.outputLocation s.outputBase d.extension a.filename, d.extension, .start a.bytes⟩⟩

theorem extension_of_encode {pack : Workbook → List UInt8} {d : Definition} {t : Table} {a : Report.Artifact}
    (h : d.encode pack t moment = .ok a) : a.extension = d.extension := by
  obtain ⟨bytes, -, rfl⟩ := Definition.encode_eq_ok_iff.mp h
  rfl

theorem offer_eq_ok {a : Report.Artifact} {o : Offer} :
    s.offer id user a = .ok o ↔ Http.isHeaderValue a.disposition = true
      ∧ o = ⟨Delivery.headersOf a, ⟨id, user.identity,
          Report.outputLocation s.outputBase a.extension a.filename, a.extension, .start a.bytes⟩⟩ := by
  unfold offer Delivery.publish
  split
  · rename_i h
    split at h
    · exact absurd h (by simp)
    · rename_i hv
      simp [hv]
  · rename_i h
    split at h
    · rename_i hv
      injection h with h; injection h with h1 h2
      subst h1; subst h2
      simp [hv, eq_comm]
    · exact absurd h (by simp)

/-- **When an export starts**, and what it then offers. -/
theorem start_eq_ok {o : Offer} :
    (s.start id user moment).value = .ok o ↔
      ∃ (d : Definition) (a : Report.Artifact), s.Starts id user moment d a o := by
  rw [value_start, bind_eq_ok]
  constructor
  · rintro ⟨d, hd, h⟩
    obtain ⟨t, ht, h⟩ := bind_eq_ok.mp h
    obtain ⟨a, ha, h⟩ := bind_eq_ok.mp h
    obtain ⟨hs, ho⟩ := offer_eq_ok.mp h
    rw [extension_of_encode ha] at ho
    exact ⟨d, a, resolve_eq_ok.mp hd, ⟨t, ht, ha⟩, hs, ho⟩
  · rintro ⟨d, a, hd, ⟨t, ht, ha⟩, hs, ho⟩
    rw [← extension_of_encode ha] at ho
    exact ⟨d, resolve_eq_ok.mpr hd, bind_eq_ok.mpr ⟨t, ht, bind_eq_ok.mpr ⟨a, ha, offer_eq_ok.mpr ⟨hs, ho⟩⟩⟩⟩

/-- The artifact's name stands between the quotes of the header that offers the file for download. -/
theorem Starts.disposition {d : Definition} {a : Report.Artifact} {o : Offer}
    (h : s.Starts id user moment d a o) :
    o.headers.first? "content-disposition" = some ("attachment; filename=\"" ++ a.filename ++ "\"") := by
  rw [h.offer]
  rfl

/-! ## Who is called -/

/-- The calls of a start: the store, and the executor if the store has the definition. What the
collaborators note themselves stands behind the call to them. -/
def startCalls (s : Service) (id : Int64) : List Trail.Call :=
  .find id :: (Trail.calls (s.collaborators.find id).trail ++
    match (s.collaborators.find id).value with
    | .ok (some d) => .execute d.query :: Trail.calls (s.collaborators.execute d.query).trail
    | _ => [])

theorem calls_run (s : Service) (id : Int64) (user : Directory.User) (moment : Moment) :
    Trail.calls (s.run id user moment).trail = s.startCalls id := by
  simp only [run, resolve, startCalls, Trail.Traced.trail_bind, Trail.Traced.value_bind,
    Trail.calls_append, Trail.calls_call, List.append_assoc, List.singleton_append]
  cases (s.collaborators.find id).value with
  | error e => simp
  | ok found =>
      cases found with
      | none => simp
      | some d =>
          simp only [table, Trail.Traced.value_pure, Trail.Traced.value_bind, Trail.Traced.trail_bind,
            Trail.calls_append, Trail.calls_call]
          cases (s.collaborators.execute d.query).value with
          | error e => simp
          | ok t =>
              simp only
              cases (d.encode s.pack t moment).bind (s.offer id user) <;> simp

/-- **Starting an export calls the store once**, and the executor once if the store has the definition. -/
theorem calls_start (s : Service) (id : Int64) (user : Directory.User) (moment : Moment) :
    Trail.calls (s.start id user moment).trail = s.startCalls id := by
  simp only [start, Trail.Traced.trail_bind, Trail.calls_append, Trail.calls_log, List.nil_append,
    calls_run]
  cases (s.run id user moment).value <;> simp

end Service

end ReportServer.Export
