import ReportServer.Export.Desk
import ReportServer.Proofs.Delivery.Handover
import Mathlib.Data.List.Basic

/-!
# Interleaved exports do not disturb each other

At a desk many exports are under way at once, and their moves come in any order. What has become of one
of them can be told from its own moves alone: how it was opened, and the steps that its two ends took.
The other moves in between do not show.

So a run is compared with a plain reading of its moves. `openings`, `stepsOf` and `closings` pick the
moves of one kind out, in order; `settledOf` says what an export opened and moved like that has come to
when it is looked at alone. The invariant `Told` says that the desk agrees with it. That a
publication, once settled, stays as it is (`outcome_of_taken`) is what makes a closing agree with the
whole run, although the ends of its export may go on moving afterwards.
-/

namespace ReportServer.Export

open Delivery (Publication Outcome)
open Trail (Entry)

/-! ## The moves of a run, by kind -/

/-- An export as it was asked for. -/
structure Opening where
  service : Service
  id : Int64
  user : Directory.User
  moment : Moment

/-- What came of the asking. -/
def Opening.start (o : Opening) : Except Report.ExportError Offer :=
  (o.service.start o.id o.user o.moment).value

/-- The end of an export, with the recorder of that moment. -/
structure Closing where
  job : Nat
  record : Record
  moment : Moment

def Move.opening? : Move → Option Opening
  | .start s id user moment => some ⟨s, id, user, moment⟩
  | _ => none

def Move.closing? : Move → Option Closing
  | .close i record moment => some ⟨i, record, moment⟩
  | _ => none

def Move.stepOf? (i : Nat) : Move → Option Delivery.Step
  | .advance k s => if k = i then some s else none
  | _ => none

/-- The exports that were asked for, in order; the place of an export is its number at the desk. -/
def openings (moves : List Move) : List Opening := moves.filterMap Move.opening?

/-- The closings, in order. -/
def closings (moves : List Move) : List Closing := moves.filterMap Move.closing?

/-- The steps that the ends of one export took, in order. -/
def stepsOf (i : Nat) (moves : List Move) : List Delivery.Step := moves.filterMap (Move.stepOf? i)

/-- What an export has come to if its publication is settled, looked at alone: what was under way, and
the outcome. -/
def settledOf (moves : List Move) (i : Nat) : Option (InFlight × Outcome) := do
  let o ← (openings moves)[i]?
  let offer ← o.start.toOption
  let (p, _) ← offer.inFlight.publication.run (stepsOf i moves)
  let outcome ← p.outcome
  return (offer.inFlight, outcome)

/-- The record a closing writes. -/
def writtenBy (moves : List Move) (c : Closing) : Option Report.Tracking :=
  (settledOf moves c.job).bind fun x => (x.1.settle c.record c.moment x.2).value

/-- What one move notes, as far as `g` is interested in it. -/
def Move.noted {β : Type} (g : Entry → Option β) (moves : List Move) : Move → List β
  | .start s id user moment => (s.start id user moment).trail.filterMap g
  | .advance _ _ => []
  | .close i record moment =>
    match settledOf moves i with
    | some (e, outcome) => (e.settle record moment outcome).trail.filterMap g
    | none => []

/-! ## What a move can do -/

/-- The offer with its publication moved on. -/
def Offer.movedTo (o : Offer) (p : Publication) : Offer :=
  ⟨o.headers, { o.inFlight with publication := p }⟩

/-- `Made d m d'`: from `d` the move `m` leads to `d'`. -/
inductive Made (d : Desk) : Move → Desk → Prop where
  | start {s : Service} {id : Int64} {user : Directory.User} {moment : Moment} :
      Made d (.start s id user moment) (d.start s id user moment)
  | advance {i : Nat} {s : Delivery.Step} {j : Job} {o : Offer} {p : Publication}
      {polled : Option Delivery.Polled} :
      d.jobs[i]? = some j → j.start = .ok o → o.inFlight.publication.step s = some (p, polled) →
      Made d (.advance i s)
        ⟨d.jobs.set i { j with start := .ok (o.movedTo p) }, d.records, d.trail⟩
  | close {i : Nat} {record : Record} {moment : Moment} {j : Job} {o : Offer} {v : Outcome} :
      d.jobs[i]? = some j → j.start = .ok o → o.inFlight.publication.outcome = some v →
      j.closed = false →
      Made d (.close i record moment) ⟨d.jobs.set i { j with closed := true },
        d.records ++ (o.inFlight.settle record moment v).value.toList,
        d.trail ++ ((bodyGone o.inFlight.publication).trail
          ++ (o.inFlight.settle record moment v).trail)⟩

theorem toOption_eq_some {α ε : Type} {x : Except ε α} {a : α} : x.toOption = some a ↔ x = .ok a := by
  cases x <;> simp [Except.toOption]

theorem made_of_step {d d' : Desk} {m : Move} (h : d.step m = some d') : Made d m d' := by
  cases m with
  | start s id user moment =>
      injection h with h
      subst h
      exact .start
  | advance i s =>
      simp only [Desk.step, Desk.advance, Job.advance, Option.bind_eq_bind, Option.bind_eq_some_iff,
        Option.pure_def, Option.some.injEq, toOption_eq_some] at h
      obtain ⟨j, hj, j', ⟨o, ho, ⟨p, polled⟩, hp, rfl⟩, rfl⟩ := h
      exact .advance hj ho hp
  | close i record moment =>
      simp only [Desk.step, Desk.close, Job.inFlight?, Option.bind_eq_bind, Option.bind_eq_some_iff,
        Option.map_eq_some_iff, toOption_eq_some] at h
      obtain ⟨j, hj, e, ⟨o, ho, rfl⟩, v, hv, h⟩ := h
      split at h
      · exact absurd h (by simp)
      · rename_i hc
        injection h with h
        subst h
        exact .close hj ho hv (by simpa using hc)

namespace Desk

theorem run_cons {d d' : Desk} {m : Move} {rest : List Move} :
    d.run (m :: rest) = some d' ↔ ∃ d₁ : Desk, d.step m = some d₁ ∧ d₁.run rest = some d' := by
  rw [run, List.foldlM_cons]
  exact Option.bind_eq_some_iff

theorem run_append {d d' : Desk} {before after : List Move} :
    d.run (before ++ after) = some d' ↔
      ∃ d₁ : Desk, d.run before = some d₁ ∧ d₁.run after = some d' := by
  rw [run, List.foldlM_append]
  exact Option.bind_eq_some_iff

end Desk

/-! ## What is read off the moves, move by move -/

section Reading

variable {past : List Move} {m : Move} {i : Nat}

theorem openings_concat : openings (past ++ [m]) = openings past ++ m.opening?.toList := by
  simp only [openings, List.filterMap_append, List.filterMap_cons, List.filterMap_nil]
  cases m.opening? <;> rfl

theorem closings_concat : closings (past ++ [m]) = closings past ++ m.closing?.toList := by
  simp only [closings, List.filterMap_append, List.filterMap_cons, List.filterMap_nil]
  cases m.closing? <;> rfl

theorem stepsOf_concat : stepsOf i (past ++ [m]) = stepsOf i past ++ (m.stepOf? i).toList := by
  simp only [stepsOf, List.filterMap_append, List.filterMap_cons, List.filterMap_nil]
  cases m.stepOf? i <;> rfl

theorem mem_closings_of_close {record : Record} {moment : Moment}
    (h : Move.close i record moment ∈ past) : (⟨i, record, moment⟩ : Closing) ∈ closings past :=
  List.mem_filterMap.mpr ⟨_, h, rfl⟩

theorem settledOf_eq_some {e : InFlight} {v : Outcome} :
    settledOf past i = some (e, v) ↔ ∃ (o : Opening) (offer : Offer) (p : Publication) (out : List UInt8),
      (openings past)[i]? = some o ∧ o.start = .ok offer
        ∧ offer.inFlight.publication.run (stepsOf i past) = some (p, out) ∧ p.outcome = some v
        ∧ e = offer.inFlight := by
  simp only [settledOf, Option.bind_eq_bind, Option.bind_eq_some_iff, Option.pure_def,
    Option.some.injEq, toOption_eq_some, Prod.mk.injEq]
  constructor
  · rintro ⟨o, ho, offer, hs, ⟨p, out⟩, hp, w, hv, rfl, rfl⟩
    exact ⟨o, offer, p, out, ho, hs, hp, hv, rfl⟩
  · rintro ⟨o, offer, p, out, ho, hs, hp, hv, rfl⟩
    exact ⟨o, ho, offer, hs, (p, out), hp, v, hv, rfl, rfl⟩

/-- What is settled stays settled, as long as the ends of the export take steps that can be taken. -/
theorem settledOf_concat {x : InFlight × Outcome} (h : settledOf past i = some x)
    (hrun : ∀ (o : Opening) (offer : Offer) (p : Publication) (out : List UInt8),
      (openings past)[i]? = some o → o.start = .ok offer →
      offer.inFlight.publication.run (stepsOf i past) = some (p, out) →
      ∃ (q : Publication) (more : List UInt8), p.run (m.stepOf? i).toList = some (q, more)) :
    settledOf (past ++ [m]) i = some x := by
  obtain ⟨e, v⟩ := x
  obtain ⟨o, offer, p, out, ho, hs, hp, hv, rfl⟩ := settledOf_eq_some.mp h
  obtain ⟨q, more, hq⟩ := hrun o offer p out ho hs hp
  refine settledOf_eq_some.mpr ⟨o, offer, q, out ++ more, ?_, hs, ?_, ?_, rfl⟩
  · have hlt : i < (openings past).length := (List.getElem?_eq_some_iff.mp ho).1
    rw [openings_concat, List.getElem?_append_left hlt]
    exact ho
  · rw [stepsOf_concat]
    exact Publication.run_append.mpr ⟨p, out, more, hp, hq, rfl⟩
  · exact Publication.outcome_of_run hq hv

end Reading

/-! ## The invariant -/

/-- What has become of an export after the steps of its own two ends. -/
inductive Became (o : Opening) (steps : List Delivery.Step) : Job → Prop where
  | refused {e : Report.ExportError} {closed : Bool} :
      o.start = .error e → steps = [] → Became o steps ⟨o.id, o.user, .error e, closed⟩
  | underWay {offer : Offer} {p : Publication} {out : List UInt8} {closed : Bool} :
      o.start = .ok offer → offer.inFlight.publication.run steps = some (p, out) →
      Became o steps ⟨o.id, o.user, .ok (offer.movedTo p), closed⟩

/-- After the moves `past` the desk is what can be told from each export alone. -/
structure Told (past : List Move) (d : Desk) : Prop where
  /-- Every export that was asked for is at the desk. -/
  length : d.jobs.length = (openings past).length
  /-- It is what its own steps have made of it. -/
  became : ∀ {i : Nat} {o : Opening} {j : Job},
    (openings past)[i]? = some o → d.jobs[i]? = some j → Became o (stepsOf i past) j
  /-- An export that was not asked for has no steps. -/
  unborn : ∀ i : Nat, (openings past).length ≤ i → stepsOf i past = []
  /-- The desk knows which exports are closed. -/
  closed : ∀ {i : Nat} {j : Job},
    d.jobs[i]? = some j → (j.closed = true ↔ i ∈ (closings past).map Closing.job)
  /-- No export is closed twice. -/
  once : ((closings past).map Closing.job).Nodup
  /-- Only what is settled is closed. -/
  settled : ∀ c ∈ closings past, (settledOf past c.job).isSome = true
  /-- The records are those of the closings. -/
  records : d.records = (closings past).filterMap (writtenBy past)
  /-- What is noted, events apart, is what each move notes. -/
  noted : ∀ {β : Type} (g : Entry → Option β), (∀ e : Trail.Event, g (.event e) = none) →
    d.trail.filterMap g = past.flatMap (Move.noted g past)

theorem told_idle : Told [] Desk.idle where
  length := rfl
  became := fun h => absurd h (by simp [openings])
  unborn := fun _ _ => rfl
  closed := fun h => absurd h (by simp [Desk.idle])
  once := List.nodup_nil
  settled := fun c h => absurd h (by simp [closings])
  records := rfl
  noted := fun _ _ => rfl

/-! ## Every move keeps it -/

section Moving

theorem getElem?_concat_eq_some {α : Type} {xs : List α} {x y : α} {i : Nat} :
    (xs ++ [x])[i]? = some y ↔ xs[i]? = some y ∨ (i = xs.length ∧ y = x) := by
  rw [List.getElem?_append]
  split
  · rename_i hlt
    exact ⟨Or.inl, fun h => h.resolve_right fun he => by omega⟩
  · rename_i hge
    have hnone : xs[i]? = none := List.getElem?_eq_none (by omega)
    rw [hnone, List.getElem?_singleton]
    split
    · rename_i hz
      have hi : i = xs.length := by omega
      simp [hi, eq_comm]
    · rename_i hz
      have hi : i ≠ xs.length := by omega
      simp [hi]

variable {past : List Move} {d : Desk}

theorem Became.movedTo_of_start {o : Opening} {steps : List Delivery.Step} {j : Job} {x : Offer}
    (h : Became o steps j) (hx : j.start = .ok x) :
    ∃ (offer : Offer) (p : Publication) (out : List UInt8), o.start = .ok offer
      ∧ offer.inFlight.publication.run steps = some (p, out) ∧ x = offer.movedTo p := by
  cases h with
  | refused he hnone => exact absurd hx (by simp)
  | @underWay offer p out _ hs hr =>
      injection hx with hx
      exact ⟨offer, p, out, hs, hr, hx.symm⟩

/-- An export at the desk was asked for. -/
theorem Told.exists_opening (h : Told past d) {i : Nat} {j : Job} (hj : d.jobs[i]? = some j) :
    ∃ o : Opening, (openings past)[i]? = some o ∧ Became o (stepsOf i past) j := by
  have hlt : i < (openings past).length := by
    rw [← h.length]
    exact (List.getElem?_eq_some_iff.mp hj).1
  have ho : (openings past)[i]? = some (openings past)[i] := List.getElem?_eq_getElem hlt
  exact ⟨_, ho, h.became ho hj⟩

/-- An export that was asked for is at the desk. -/
theorem Told.exists_job (h : Told past d) {i : Nat} {o : Opening} (ho : (openings past)[i]? = some o) :
    ∃ j : Job, d.jobs[i]? = some j ∧ Became o (stepsOf i past) j := by
  have hlt : i < d.jobs.length := by
    rw [h.length]
    exact (List.getElem?_eq_some_iff.mp ho).1
  have hj : d.jobs[i]? = some d.jobs[i] := List.getElem?_eq_getElem hlt
  exact ⟨_, hj, h.became ho hj⟩

theorem Became.advance {o : Opening} {steps : List Delivery.Step} {j : Job} {x : Offer}
    {s : Delivery.Step} {q : Publication} {polled : Option Delivery.Polled} (h : Became o steps j)
    (hx : j.start = .ok x) (hstep : x.inFlight.publication.step s = some (q, polled)) :
    Became o (steps ++ [s]) { j with start := .ok (x.movedTo q) } := by
  cases h with
  | refused he hnone => exact absurd hx (by simp)
  | @underWay offer p out _ hs hr =>
      injection hx with hx
      subst hx
      have hlast : p.run [s] = some (q, Publication.bytesOf polled ++ []) :=
        Publication.run_cons.mpr ⟨q, polled, [], hstep, rfl, rfl⟩
      have hrun : offer.inFlight.publication.run (steps ++ [s]) = some (q, _) :=
        Publication.run_append.mpr ⟨p, out, _, hr, hlast, rfl⟩
      show Became o (steps ++ [s]) ⟨o.id, o.user, .ok (offer.movedTo q), _⟩
      exact .underWay hs hrun

/-- An export that was asked for a moment ago. -/
theorem became_start (o : Opening) : Became o [] ⟨o.id, o.user, o.start, false⟩ := by
  cases hs : o.start with
  | error e => exact .refused hs rfl
  | ok offer => exact .underWay hs rfl

/-- What is closed is at the desk. -/
theorem Told.lt_of_closed (h : Told past d) {i : Nat} (hi : i ∈ (closings past).map Closing.job) :
    i < d.jobs.length := by
  obtain ⟨c, hc, rfl⟩ := List.mem_map.mp hi
  obtain ⟨⟨e, v⟩, hx⟩ := Option.isSome_iff_exists.mp (h.settled c hc)
  obtain ⟨o, offer, p, out, ho, -, -, -, -⟩ := settledOf_eq_some.mp hx
  obtain ⟨j, hj, -⟩ := h.exists_job ho
  exact (List.getElem?_eq_some_iff.mp hj).1

/-- What is settled stays settled, whatever the next move is. -/
theorem Told.settledOf_concat (h : Told past d) {d' : Desk} {m : Move} (hm : Made d m d') {i : Nat}
    {x : InFlight × Outcome} (hx : settledOf past i = some x) : settledOf (past ++ [m]) i = some x := by
  refine Export.settledOf_concat hx fun o offer p out ho hs hp => ?_
  cases hm with
  | start => exact ⟨p, [], rfl⟩
  | close => exact ⟨p, [], rfl⟩
  | @advance k s j y q polled hj hy hstep =>
      by_cases hk : k = i
      · -- the job is where the steps so far have brought it, so the next step is the publication's
        subst hk
        obtain ⟨offer', p', out', hs', hp', rfl⟩ := (h.became ho hj).movedTo_of_start hy
        rw [hs] at hs'
        injection hs' with hs'
        subst hs'
        rw [hp] at hp'
        obtain ⟨rfl, rfl⟩ := Prod.mk.inj (Option.some.inj hp')
        refine ⟨q, Publication.bytesOf polled ++ [], ?_⟩
        simp only [Move.stepOf?, if_true]
        exact Publication.run_cons.mpr ⟨q, polled, [], hstep, rfl, rfl⟩
      · simp only [Move.stepOf?, if_neg hk]
        exact ⟨p, [], rfl⟩

/-- So what was closed before the move is seen the same way after it. -/
theorem Told.settledOf_eq (h : Told past d) {d' : Desk} {m : Move} (hm : Made d m d') {c : Closing}
    (hc : c ∈ closings past) : settledOf (past ++ [m]) c.job = settledOf past c.job := by
  obtain ⟨x, hx⟩ := Option.isSome_iff_exists.mp (h.settled c hc)
  rw [hx]
  exact h.settledOf_concat hm hx

theorem Told.settled_concat (h : Told past d) {d' : Desk} {m : Move} (hm : Made d m d') {c : Closing}
    (hc : c ∈ closings past) : (settledOf (past ++ [m]) c.job).isSome = true := by
  rw [h.settledOf_eq hm hc]
  exact h.settled c hc

theorem Told.filterMap_writtenBy (h : Told past d) {d' : Desk} {m : Move} (hm : Made d m d') :
    (closings past).filterMap (writtenBy (past ++ [m])) = (closings past).filterMap (writtenBy past) := by
  refine List.filterMap_congr fun c hc => ?_
  rw [writtenBy, writtenBy, h.settledOf_eq hm hc]

theorem Told.flatMap_noted (h : Told past d) {d' : Desk} {m : Move} (hm : Made d m d') {β : Type}
    (g : Entry → Option β) :
    past.flatMap (Move.noted g (past ++ [m])) = past.flatMap (Move.noted g past) := by
  refine List.flatMap_congr fun move hmove => ?_
  cases move with
  | start => rfl
  | advance => rfl
  | close i record moment =>
      have he : settledOf (past ++ [m]) i = settledOf past i :=
        h.settledOf_eq hm (mem_closings_of_close hmove)
      rw [Move.noted, Move.noted, he]

theorem Told.start (h : Told past d) (s : Service) (id : Int64) (user : Directory.User) (moment : Moment) :
    Told (past ++ [.start s id user moment]) (d.start s id user moment) := by
  have hm : Made d (.start s id user moment) (d.start s id user moment) := .start
  have hclosings : closings (past ++ [.start s id user moment]) = closings past := by
    rw [closings_concat]
    exact List.append_nil _
  have hsteps : ∀ i : Nat, stepsOf i (past ++ [.start s id user moment]) = stepsOf i past := by
    intro i
    rw [stepsOf_concat]
    exact List.append_nil _
  constructor
  case length =>
    rw [openings_concat]
    simp [Desk.start, Move.opening?, h.length]
  case became =>
    intro i o j ho hj
    rw [hsteps]
    rw [openings_concat] at ho
    rcases getElem?_concat_eq_some.mp hj with hj | ⟨hi, rfl⟩
    · obtain ⟨o', ho', hb⟩ := h.exists_opening hj
      have hlt : i < (openings past).length := (List.getElem?_eq_some_iff.mp ho').1
      rw [List.getElem?_append_left hlt, ho'] at ho
      injection ho with ho
      rw [← ho]
      exact hb
    · -- the newcomer stands at the end, and nothing was done about it before
      rw [h.length] at hi
      subst hi
      rw [List.getElem?_append_right (Nat.le_refl _), Nat.sub_self] at ho
      injection ho with ho
      subst ho
      rw [h.unborn _ (Nat.le_refl _)]
      exact became_start _
  case unborn =>
    intro i hle
    rw [hsteps]
    refine h.unborn i (Nat.le_trans ?_ hle)
    rw [openings_concat, List.length_append]
    exact Nat.le_add_right _ _
  case closed =>
    intro i j hj
    rw [hclosings]
    rcases getElem?_concat_eq_some.mp hj with hj | ⟨hi, rfl⟩
    · exact h.closed hj
    · -- what is closed was at the desk before
      refine iff_of_false (by simp) fun hc => ?_
      have hlt := h.lt_of_closed hc
      omega
  case once =>
    rw [hclosings]
    exact h.once
  case settled =>
    intro c hc
    rw [hclosings] at hc
    exact h.settled_concat hm hc
  case records =>
    rw [hclosings, h.filterMap_writtenBy hm]
    exact h.records
  case noted =>
    intro β g hg
    rw [List.flatMap_append, h.flatMap_noted hm, ← h.noted g hg]
    simp [Desk.start, Move.noted, List.filterMap_append]

theorem getElem?_set_eq_some {α : Type} {xs : List α} {x y : α} {i k : Nat}
    (h : (xs.set i x)[k]? = some y) : (k = i ∧ y = x) ∨ (k ≠ i ∧ xs[k]? = some y) := by
  by_cases hk : k = i
  · subst hk
    have hlt : k < (xs.set k x).length := (List.getElem?_eq_some_iff.mp h).1
    rw [List.length_set] at hlt
    rw [List.getElem?_set_self hlt] at h
    injection h with h
    exact Or.inl ⟨rfl, h.symm⟩
  · rw [List.getElem?_set_ne (Ne.symm hk)] at h
    exact Or.inr ⟨hk, h⟩

theorem Told.advance (h : Told past d) {i : Nat} {s : Delivery.Step} {j : Job} {x : Offer}
    {q : Publication} {polled : Option Delivery.Polled} (hj : d.jobs[i]? = some j)
    (hx : j.start = .ok x) (hstep : x.inFlight.publication.step s = some (q, polled)) :
    Told (past ++ [.advance i s])
      ⟨d.jobs.set i { j with start := .ok (x.movedTo q) }, d.records, d.trail⟩ := by
  have hm : Made d (.advance i s) _ := .advance hj hx hstep
  have hopenings : openings (past ++ [.advance i s]) = openings past := by
    rw [openings_concat]
    exact List.append_nil _
  have hclosings : closings (past ++ [.advance i s]) = closings past := by
    rw [closings_concat]
    exact List.append_nil _
  have hother : ∀ {k : Nat}, k ≠ i → stepsOf k (past ++ [.advance i s]) = stepsOf k past := by
    intro k hk
    rw [stepsOf_concat]
    simp [Move.stepOf?, Ne.symm hk]
  constructor
  case length =>
    rw [hopenings, List.length_set]
    exact h.length
  case became =>
    intro k o j' ho hj'
    rw [hopenings] at ho
    rcases getElem?_set_eq_some hj' with ⟨rfl, rfl⟩ | ⟨hk, hj'⟩
    · rw [stepsOf_concat]
      simp only [Move.stepOf?, if_true]
      exact (h.became ho hj).advance hx hstep
    · rw [hother hk]
      exact h.became ho hj'
  case unborn =>
    intro k hle
    rw [hopenings] at hle
    have hk : k ≠ i := by
      have hlt := (List.getElem?_eq_some_iff.mp hj).1
      rw [h.length] at hlt
      omega
    rw [hother hk]
    exact h.unborn k hle
  case closed =>
    intro k j' hj'
    rw [hclosings]
    rcases getElem?_set_eq_some hj' with ⟨rfl, rfl⟩ | ⟨-, hj'⟩
    · show j.closed = true ↔ _
      exact h.closed hj
    · exact h.closed hj'
  case once =>
    rw [hclosings]
    exact h.once
  case settled =>
    intro c hc
    rw [hclosings] at hc
    exact h.settled_concat hm hc
  case records =>
    rw [hclosings, h.filterMap_writtenBy hm]
    exact h.records
  case noted =>
    intro β g hg
    rw [List.flatMap_append, h.flatMap_noted hm, ← h.noted g hg]
    exact (List.append_nil _).symm

/-- The steps of an export do not change what follows its settling. -/
theorem settle_movedTo (o : Offer) (p : Publication) (record : Record) (moment : Moment) (v : Outcome) :
    (o.movedTo p).inFlight.settle record moment v = o.inFlight.settle record moment v := by
  cases v <;> rfl

/-- The end of a body is logged and nothing else. -/
theorem filterMap_bodyGone (p : Publication) {β : Type} {g : Entry → Option β}
    (hg : ∀ e : Trail.Event, g (.event e) = none) : (bodyGone p).trail.filterMap g = [] := by
  have hlog : ∀ (level : Trail.Level) (target message : String) (fields : List (String × Json.Value)),
      (Trail.Traced.log level target message fields).trail.filterMap g = [] := by
    intro level target message fields
    exact List.filterMap_cons_none (hg _)
  rw [bodyGone, Trail.Traced.trail_bind, List.filterMap_append, bodyDropped, writerStopped]
  split <;> split <;> simp [hlog]

theorem Told.close (h : Told past d) {i : Nat} {record : Record} {moment : Moment} {j : Job}
    {x : Offer} {v : Outcome} (hj : d.jobs[i]? = some j) (hx : j.start = .ok x)
    (hv : x.inFlight.publication.outcome = some v) (hopen : j.closed = false) :
    Told (past ++ [.close i record moment]) ⟨d.jobs.set i { j with closed := true },
      d.records ++ (x.inFlight.settle record moment v).value.toList,
      d.trail ++ ((bodyGone x.inFlight.publication).trail
        ++ (x.inFlight.settle record moment v).trail)⟩ := by
  have hm : Made d (.close i record moment) _ := .close hj hx hv hopen
  have hopenings : openings (past ++ [.close i record moment]) = openings past := by
    rw [openings_concat]
    exact List.append_nil _
  have hsteps : ∀ k : Nat, stepsOf k (past ++ [.close i record moment]) = stepsOf k past := by
    intro k
    rw [stepsOf_concat]
    exact List.append_nil _
  have hclosings : closings (past ++ [.close i record moment])
      = closings past ++ [⟨i, record, moment⟩] := closings_concat
  obtain ⟨o, ho, hb⟩ := h.exists_opening hj
  obtain ⟨offer, p, out, hs, hr, rfl⟩ := hb.movedTo_of_start hx
  -- what is closed is settled when it is looked at alone, too
  have hnow : settledOf (past ++ [.close i record moment]) i = some (offer.inFlight, v) := by
    refine settledOf_eq_some.mpr ⟨o, offer, p, out, ?_, hs, ?_, hv, rfl⟩
    · rw [hopenings]
      exact ho
    · rw [hsteps]
      exact hr
  have hnew : i ∉ (closings past).map Closing.job := by
    intro hmem
    rw [(h.closed hj).mpr hmem] at hopen
    exact absurd hopen (by simp)
  constructor
  case length =>
    rw [hopenings, List.length_set]
    exact h.length
  case became =>
    intro k o' j' ho' hj'
    rw [hopenings] at ho'
    rw [hsteps]
    rcases getElem?_set_eq_some hj' with ⟨rfl, rfl⟩ | ⟨-, hj'⟩
    · have hb' := h.became ho' hj
      cases hb' with
      | refused he hnone => exact .refused he hnone
      | underWay hs hr => exact .underWay hs hr
    · exact h.became ho' hj'
  case unborn =>
    intro k hle
    rw [hopenings] at hle
    rw [hsteps]
    exact h.unborn k hle
  case closed =>
    intro k j' hj'
    rw [hclosings, List.map_append, List.mem_append]
    rcases getElem?_set_eq_some hj' with ⟨rfl, rfl⟩ | ⟨hk, hj'⟩
    · exact iff_of_true rfl (Or.inr (List.mem_singleton.mpr rfl))
    · rw [h.closed hj']
      exact ⟨Or.inl, fun hc => hc.resolve_right fun he => hk (List.mem_singleton.mp he)⟩
  case once =>
    rw [hclosings, List.map_append]
    refine List.nodup_append.mpr ⟨h.once, by simp, ?_⟩
    intro a ha b hb hab
    rw [hab, List.mem_singleton.mp hb] at ha
    exact hnew ha
  case settled =>
    intro c hc
    rw [hclosings] at hc
    rcases List.mem_append.mp hc with hc | hc
    · exact h.settled_concat hm hc
    · rw [List.mem_singleton.mp hc, hnow]
      rfl
  case records =>
    rw [hclosings, List.filterMap_append, h.filterMap_writtenBy hm, ← h.records]
    simp only [List.filterMap_cons, List.filterMap_nil, writtenBy, hnow, Option.bind_some,
      settle_movedTo]
    cases (offer.inFlight.settle record moment v).value <;> rfl
  case noted =>
    intro β g hg
    rw [List.flatMap_append, h.flatMap_noted hm, ← h.noted g hg, List.flatMap_singleton]
    simp only [List.filterMap_append, filterMap_bodyGone _ hg, List.nil_append, Move.noted, hnow,
      settle_movedTo]

/-- **Preserved by every move.** -/
theorem Told.step (h : Told past d) {d' : Desk} {m : Move} (hm : d.step m = some d') :
    Told (past ++ [m]) d' := by
  cases made_of_step hm with
  | start => exact h.start ..
  | advance hj hx hstep => exact h.advance hj hx hstep
  | close hj hx hv hopen => exact h.close hj hx hv hopen

/-- **Kept by every run**, whatever the order of its moves. -/
theorem Told.run {moves : List Move} {d' : Desk} (h : Told past d) (hr : d.run moves = some d') :
    Told (past ++ moves) d' := by
  induction moves generalizing past d with
  | nil =>
      injection hr with hr
      rw [List.append_nil, ← hr]
      exact h
  | cons m rest ih =>
      obtain ⟨d₁, hm, hr⟩ := Desk.run_cons.mp hr
      have := ih (h.step hm) hr
      rwa [List.append_assoc] at this

end Moving

/-- **What a run of the desk has come to can be told from its moves.** -/
theorem told_of_run {moves : List Move} {d : Desk} (h : Desk.idle.run moves = some d) : Told moves d :=
  told_idle.run h

end ReportServer.Export
