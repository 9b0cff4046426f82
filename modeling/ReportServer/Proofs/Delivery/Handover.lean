import ReportServer.Delivery.Publication

/-!
# Every byte is handed out once, and the outcome says so

A writer and a body share a pipe, and they take turns in any order. What never changes is the sum:
the bytes handed out, then those in the pipe, then those not yet sent, are the bytes of the
artifact. From that follows what a caller can rely on, whatever the schedule was: the bytes handed
out are a prefix of the artifact, and all of it once the body says that it has ended.

The outcome is decided in two places, at the end of the body and where it is dropped. The invariant
says of both at once that there is an outcome exactly when the body is no longer reading, and that it
is the verdict on what has been handed out. Nothing is handed out after that, so the verdict stays.
-/

namespace ReportServer.Delivery

namespace Publication

/-! ## What a step can do -/

/--
`Taken p s q polled`: from `p` the step `s` leads to `q`, and the body answers `polled` if it was asked.
Every step that can be taken is one of these six.
-/
inductive Taken (p : Publication) : Step → Publication → Option Polled → Prop where
  | push {n : Nat} : p.body ≠ .dropped → 0 < n → n ≤ p.unsent.length →
      p.pipe.length + n ≤ pipeCapacity →
      Taken p (.push n) { p with unsent := p.unsent.drop n, pipe := p.pipe ++ p.unsent.take n } none
  | shut : p.unsent = [] → p.shut = false → Taken p .shut { p with shut := true } none
  | chunk {n : Nat} : p.body ≠ .dropped → 0 < n → n ≤ chunkLimit → n ≤ p.pipe.length →
      Taken p (.poll n) { p with pipe := p.pipe.drop n, handed := p.handed + n }
        (some (.chunk (p.pipe.take n)))
  | pending {n : Nat} : p.body ≠ .dropped → p.pipe = [] → p.shut = false →
      Taken p (.poll n) p (some .pending)
  | ended {n : Nat} : p.body ≠ .dropped → p.pipe = [] → p.shut = true →
      Taken p (.poll n) { p.settle with body := .ended } (some .ended)
  | drop : p.body ≠ .dropped → Taken p .drop { p.settle with body := .dropped } none

theorem canPush_iff {p : Publication} {n : Nat} :
    p.canPush n = true ↔ p.body ≠ .dropped ∧ 0 < n ∧ n ≤ p.unsent.length
      ∧ p.pipe.length + n ≤ pipeCapacity := by
  simp [canPush, and_assoc]

theorem canHandOut_iff {p : Publication} {n : Nat} :
    p.canHandOut n = true ↔ 0 < n ∧ n ≤ chunkLimit ∧ n ≤ p.pipe.length := by
  simp [canHandOut, and_assoc]

/-- Asking the body leads to one of the three answers. -/
theorem taken_of_poll {p q : Publication} {n : Nat} {polled : Polled}
    (h : p.poll n = some (q, polled)) : Taken p (.poll n) q (some polled) := by
  unfold poll at h
  split at h
  · exact absurd h (by simp)
  · rename_i hd
    have hd : p.body ≠ .dropped := by simpa using hd
    split at h
    · rename_i he
      have he : p.pipe = [] := List.isEmpty_iff.mp he
      split at h
      · rename_i hs
        injection h with h; injection h with h1 h2
        subst h1; subst h2
        exact .ended hd he hs
      · rename_i hs
        injection h with h; injection h with h1 h2
        subst h1; subst h2
        exact .pending hd he (by simpa using hs)
    · split at h
      · rename_i hc
        obtain ⟨h0, hl, hp⟩ := canHandOut_iff.mp hc
        injection h with h; injection h with h1 h2
        subst h1; subst h2
        exact .chunk hd h0 hl hp
      · exact absurd h (by simp)

theorem taken_of_step {p q : Publication} {s : Step} {polled : Option Polled}
    (h : p.step s = some (q, polled)) : Taken p s q polled := by
  cases s with
  | push n =>
      rw [step] at h
      split at h
      · rename_i hc
        obtain ⟨hd, h0, hu, hf⟩ := canPush_iff.mp hc
        injection h with h; injection h with h1 h2
        subst h1; subst h2
        exact .push hd h0 hu hf
      · exact absurd h (by simp)
  | shut =>
      rw [step] at h
      split at h
      · rename_i hc
        injection h with h; injection h with h1 h2
        subst h1; subst h2
        exact .shut (List.isEmpty_iff.mp hc.1) (by simpa using hc.2)
      · exact absurd h (by simp)
  | poll n =>
      rw [step] at h
      obtain ⟨r, hr, hq⟩ := Option.map_eq_some_iff.mp h
      injection hq with h1 h2
      subst h1; subst h2
      exact taken_of_poll hr
  | drop =>
      rw [step] at h
      split at h
      · rename_i hd
        injection h with h; injection h with h1 h2
        subst h1; subst h2
        exact .drop (by simpa using hd)
      · exact absurd h (by simp)

theorem step_of_taken {p q : Publication} {s : Step} {polled : Option Polled}
    (h : Taken p s q polled) : p.step s = some (q, polled) := by
  cases h with
  | push hd h0 hu hf => rw [step, if_pos (canPush_iff.mpr ⟨hd, h0, hu, hf⟩)]
  | shut hu hs => simp [step, hu, hs]
  | @chunk n hd h0 hl hp =>
      have hne : p.pipe.isEmpty = false := by
        cases he : p.pipe with
        | nil => rw [he] at hp; exact absurd hp (by simp; omega)
        | cons _ _ => rfl
      simp [step, poll, hd, hne, canHandOut_iff.mpr ⟨h0, hl, hp⟩]
  | pending hd he hs => simp [step, poll, hd, he, hs]
  | ended hd he hs => simp [step, poll, hd, he, hs]
  | drop hd => simp [step, hd]

/-! ## Runs, step by step -/

theorem run_cons {p q : Publication} {s : Step} {rest : List Step} {out : List UInt8} :
    p.run (s :: rest) = some (q, out) ↔
      ∃ (p' : Publication) (polled : Option Polled) (more : List UInt8),
        p.step s = some (p', polled) ∧ p'.run rest = some (q, more) ∧ out = bytesOf polled ++ more := by
  rw [run]
  cases hs : p.step s with
  | none => simp
  | some r =>
      obtain ⟨p', polled⟩ := r
      constructor
      · intro h
        obtain ⟨⟨q', more⟩, hr, hq⟩ := Option.map_eq_some_iff.mp h
        injection hq with h1 h2
        subst h1
        exact ⟨p', polled, more, rfl, hr, h2.symm⟩
      · rintro ⟨p'', polled', more, h1, h2, h3⟩
        obtain ⟨rfl, rfl⟩ := Prod.mk.inj (Option.some.inj h1)
        simp [h2, h3]

theorem run_append {p q : Publication} {first second : List Step} {out : List UInt8} :
    p.run (first ++ second) = some (q, out) ↔
      ∃ (m : Publication) (o₁ o₂ : List UInt8),
        p.run first = some (m, o₁) ∧ m.run second = some (q, o₂) ∧ out = o₁ ++ o₂ := by
  induction first generalizing p out with
  | nil =>
      constructor
      · intro h
        exact ⟨p, [], out, rfl, h, rfl⟩
      · rintro ⟨m, o₁, o₂, h1, h2, rfl⟩
        obtain ⟨rfl, rfl⟩ := Prod.mk.inj (Option.some.inj h1)
        exact h2
  | cons s rest ih =>
      rw [List.cons_append, run_cons]
      constructor
      · rintro ⟨p', polled, more, hs, hr, rfl⟩
        obtain ⟨m, o₁, o₂, h1, h2, rfl⟩ := ih.mp hr
        exact ⟨m, bytesOf polled ++ o₁, o₂, run_cons.mpr ⟨p', polled, o₁, hs, h1, rfl⟩, h2,
          (List.append_assoc ..).symm⟩
      · rintro ⟨m, o₁, o₂, h1, h2, rfl⟩
        obtain ⟨p', polled, more, hs, hr, rfl⟩ := run_cons.mp h1
        exact ⟨p', polled, more ++ o₂, hs, ih.mpr ⟨m, more, o₂, hr, h2, rfl⟩, List.append_assoc ..⟩

/-- What the body answers along a run, as far as it goes. -/
def answers (p : Publication) : List Step → List Polled
  | [] => []
  | s :: rest =>
    match p.step s with
    | none => []
    | some (p', polled) => polled.toList ++ p'.answers rest

theorem answers_cons {p p' : Publication} {s : Step} {polled : Option Polled} {rest : List Step}
    (h : p.step s = some (p', polled)) : p.answers (s :: rest) = polled.toList ++ p'.answers rest := by
  rw [answers, h]

/-! ## The invariant -/

/--
The bytes of `data`, of which `out` has been handed out, are all accounted for.

`settled` is what ties the two places that decide the outcome together: whichever of them came
first, the outcome is the verdict on what has been handed out by now.
-/
structure Accounts (data out : List UInt8) (p : Publication) : Prop where
  /-- Nothing is lost, doubled or put elsewhere. -/
  whole : out ++ (p.pipe ++ p.unsent) = data
  /-- What is expected is all of it. -/
  expected : p.expected = data.length
  /-- What is counted has been handed out. -/
  handed : p.handed = out.length
  /-- The pipe never holds more than it can. -/
  fits : p.pipe.length ≤ pipeCapacity
  /-- The writer shuts its end last. -/
  shut : p.shut = true → p.unsent = []
  /-- A body that has ended has left nothing behind. -/
  ended : p.body = .ended → p.pipe = [] ∧ p.shut = true
  /-- There is an outcome once the body reads no more, and it is the verdict. -/
  settled : p.outcome = if p.body = .reading then none else some p.verdict

theorem accounts_start (data : List UInt8) : Accounts data [] (start data) where
  whole := rfl
  expected := rfl
  handed := rfl
  fits := Nat.zero_le _
  shut := fun h => absurd h (by simp [start])
  ended := fun h => absurd h (by simp [start])
  settled := rfl

namespace Accounts

variable {data out : List UInt8} {p q : Publication}

/-- Settling gives the verdict, the first time and every time after it. -/
theorem outcome_settle (h : Accounts data out p) : p.settle.outcome = some p.verdict := by
  rw [settle, h.settled]
  split <;> rfl

/-- The body stops reading, at its end or before it. -/
theorem close {b : BodyState} (h : Accounts data out p) (hb : b ≠ .reading)
    (he : b = .ended → p.pipe = [] ∧ p.shut = true) :
    Accounts data out { p.settle with body := b } where
  whole := h.whole
  expected := h.expected
  handed := h.handed
  fits := h.fits
  shut := h.shut
  ended := he
  settled := by
    rw [if_neg hb]
    exact h.outcome_settle

/-- **Preserved by every step.** -/
theorem step {s : Step} {polled : Option Polled} (h : Accounts data out p)
    (hs : Taken p s q polled) : Accounts data (out ++ bytesOf polled) q := by
  cases hs with
  | @push n hd h0 hu hf =>
      have hne : p.unsent ≠ [] := fun he => by rw [he] at hu; simp at hu; omega
      refine ⟨?_, h.expected, by simpa [bytesOf] using h.handed, ?_, ?_, ?_, h.settled⟩
      · simpa [bytesOf, List.append_assoc] using h.whole
      · simp only [List.length_append, List.length_take]
        omega
      · exact fun hs => absurd (h.shut hs) hne
      · exact fun he => absurd (h.shut (h.ended he).2) hne
  | shut hu hs =>
      refine ⟨by simpa [bytesOf] using h.whole, h.expected, by simpa [bytesOf] using h.handed,
        h.fits, fun _ => hu, fun he => ⟨(h.ended he).1, rfl⟩, h.settled⟩
  | @chunk n hd h0 hl hp =>
      -- a body that hands out bytes has them in the pipe, so it has not ended
      have hne : p.body ≠ .ended := fun he => by
        rw [(h.ended he).1] at hp; simp at hp; omega
      have hr : p.body = .reading := by
        cases hb : p.body with
        | reading => rfl
        | ended => exact absurd hb hne
        | dropped => exact absurd hb hd
      refine ⟨?_, h.expected, ?_, ?_, h.shut, fun he => absurd he hne, ?_⟩
      · show (out ++ p.pipe.take n) ++ (p.pipe.drop n ++ p.unsent) = data
        rw [List.append_assoc, ← List.append_assoc (p.pipe.take n), List.take_append_drop]
        exact h.whole
      · have hlen : (p.pipe.take n).length = n := by rw [List.length_take]; omega
        simp only [bytesOf, List.length_append, hlen, h.handed]
      · have := h.fits
        simp only [List.length_drop]
        omega
      · have := h.settled
        simp only [hr, if_true] at this ⊢
        exact this
  | pending hd he hs => simpa [bytesOf] using h
  | ended hd he hs =>
      show Accounts data (out ++ []) _
      rw [List.append_nil]
      exact h.close (by simp) (fun _ => ⟨he, hs⟩)
  | drop hd =>
      show Accounts data (out ++ []) _
      rw [List.append_nil]
      exact h.close (by simp) (fun he => absurd he (by simp))

/-- **Kept by every run**, whatever the order of its steps. -/
theorem run {steps : List Step} {more : List UInt8} (h : Accounts data out p)
    (hr : p.run steps = some (q, more)) : Accounts data (out ++ more) q := by
  induction steps generalizing p out more with
  | nil =>
      obtain ⟨rfl, rfl⟩ := Prod.mk.inj (Option.some.inj hr)
      simpa using h
  | cons s rest ih =>
      obtain ⟨p', polled, tail, hs, hr', rfl⟩ := run_cons.mp hr
      rw [← List.append_assoc]
      exact ih (h.step (taken_of_step hs)) hr'

/-- A body that has ended has handed out everything. -/
theorem eq_of_ended (h : Accounts data out p) (he : p.body = .ended) : out = data := by
  obtain ⟨hp, hs⟩ := h.ended he
  have := h.whole
  rw [hp, h.shut hs] at this
  simpa using this

/-- The number of bytes handed out is all of them exactly when the bytes are. -/
theorem handed_eq_iff (h : Accounts data out p) : p.handed = p.expected ↔ out = data := by
  have hw := h.whole
  rw [h.handed, h.expected]
  constructor
  · intro hl
    have hnil : p.pipe ++ p.unsent = [] := by
      have := congrArg List.length hw
      rw [List.length_append] at this
      exact List.eq_nil_of_length_eq_zero (by omega)
    rw [hnil, List.append_nil] at hw
    exact hw
  · intro he
    rw [he]

theorem verdict_eq (h : Accounts data out p) :
    p.verdict = if out = data then .delivered data.length else .sinkClosed := by
  by_cases he : out = data
  · rw [if_pos he, verdict, if_pos (h.handed_eq_iff.mpr he), h.handed, he]
  · rw [if_neg he, verdict, if_neg (mt h.handed_eq_iff.mp he)]

/-- **What the outcome is**, and when there is one. -/
theorem outcome_eq_some_iff (h : Accounts data out p) {v : Outcome} :
    p.outcome = some v ↔
      p.body ≠ .reading ∧ v = if out = data then .delivered data.length else .sinkClosed := by
  rw [h.settled, ← h.verdict_eq]
  split
  · rename_i hb
    simp [hb]
  · rename_i hb
    simp [hb, eq_comm]

end Accounts

/-! ## The body reads until it ends or is dropped -/

theorem reading_of_taken {p q : Publication} {s : Step} {polled : Option Polled}
    (h : Taken p s q polled) :
    q.body = .reading ↔ p.body = .reading ∧ polled ≠ some .ended ∧ s ≠ .drop := by
  cases h with
  | push | shut | chunk | pending => simp
  | ended | drop => simp

/-- Both ways of ending are seen from the outside: an answer says so, or the caller did it. -/
theorem reading_of_run {p q : Publication} {steps : List Step} {out : List UInt8}
    (h : p.run steps = some (q, out)) :
    q.body = .reading ↔ p.body = .reading ∧ .ended ∉ p.answers steps ∧ .drop ∉ steps := by
  induction steps generalizing p out with
  | nil =>
      obtain ⟨rfl, rfl⟩ := Prod.mk.inj (Option.some.inj h)
      simp [answers]
  | cons s rest ih =>
      obtain ⟨p', polled, more, hs, hr, rfl⟩ := run_cons.mp h
      rw [ih hr, reading_of_taken (taken_of_step hs), answers_cons hs]
      simp only [List.mem_append, List.mem_cons, Option.mem_toList, not_or, ne_eq, eq_comm (a := s)]
      constructor
      · rintro ⟨⟨h1, h2, h3⟩, h4, h5⟩
        exact ⟨h1, ⟨h2, h4⟩, h3, h5⟩
      · rintro ⟨h1, ⟨h2, h4⟩, h3, h5⟩
        exact ⟨⟨h1, h2, h3⟩, h4, h5⟩

/-- An outcome, once there is one, stays. -/
theorem outcome_of_taken {p q : Publication} {s : Step} {polled : Option Polled} {v : Outcome}
    (h : Taken p s q polled) (hv : p.outcome = some v) : q.outcome = some v := by
  cases h with
  | push | shut | chunk | pending => exact hv
  | ended | drop =>
      show p.outcome.or (some p.verdict) = some v
      rw [hv, Option.some_or]

theorem outcome_of_run {p q : Publication} {steps : List Step} {out : List UInt8} {v : Outcome}
    (h : p.run steps = some (q, out)) (hv : p.outcome = some v) : q.outcome = some v := by
  induction steps generalizing p out with
  | nil =>
      obtain ⟨rfl, rfl⟩ := Prod.mk.inj (Option.some.inj h)
      exact hv
  | cons s rest ih =>
      obtain ⟨p', polled, more, hs, hr, rfl⟩ := run_cons.mp h
      exact ih hr (outcome_of_taken (taken_of_step hs) hv)

/-- Once the body has said that it ended, the outcome is that everything was delivered. -/
theorem outcome_of_ended {data out more : List UInt8} {p q : Publication} {steps : List Step}
    (h : Accounts data out p) (hr : p.run steps = some (q, more)) (he : .ended ∈ p.answers steps) :
    q.outcome = some (.delivered data.length) := by
  induction steps generalizing p out more with
  | nil => exact absurd he (by simp [answers])
  | cons s rest ih =>
      obtain ⟨p', polled, tail, hs, hr', rfl⟩ := run_cons.mp hr
      have ht := taken_of_step hs
      rw [answers_cons hs] at he
      rcases List.mem_append.mp he with hnow | hlater
      · have hb : p'.body = .ended := by
          rw [Option.mem_toList.mp hnow] at ht
          cases ht
          rfl
        have hacc := h.step ht
        have hv : p'.outcome = some (.delivered data.length) :=
          hacc.outcome_eq_some_iff.mpr ⟨by rw [hb]; simp, by rw [if_pos (hacc.eq_of_ended hb)]⟩
        exact outcome_of_run hr' hv
      · exact ih (h.step ht) hr' hlater

/-! ## Nobody waits for ever -/

/-- What is left to do: each byte is pushed and handed out, and the writer shuts its end. -/
def left (p : Publication) : Nat :=
  2 * p.unsent.length + p.pipe.length + if p.shut then 0 else 1

/-- As long as the body reads, one of the two ends can take a step that brings the end nearer. -/
theorem exists_taken {p : Publication} (hb : p.body = .reading) :
    ∃ (s : Step) (q : Publication) (polled : Option Polled), Taken p s q polled
      ∧ (q.body = .ended ∨ q.body = .reading ∧ q.left < p.left) := by
  have hd : p.body ≠ .dropped := by rw [hb]; simp
  by_cases hp : p.pipe = []
  · by_cases hu : p.unsent = []
    · by_cases hs : p.shut = true
      · exact ⟨.poll 0, _, _, .ended hd hp hs, Or.inl rfl⟩
      · have hs : p.shut = false := by simpa using hs
        refine ⟨.shut, _, _, .shut hu hs, Or.inr ⟨hb, ?_⟩⟩
        simp [left, hs]
    · -- the pipe is dry, so there is room for a byte
      have hpos : 0 < p.unsent.length := List.length_pos_iff.mpr hu
      have hroom : p.pipe.length + 1 ≤ pipeCapacity := by rw [hp]; decide
      refine ⟨.push 1, _, _, .push hd Nat.one_pos hpos hroom, Or.inr ⟨hb, ?_⟩⟩
      simp only [left, List.length_append, List.length_take, List.length_drop]
      omega
  · have hpos : 0 < p.pipe.length := List.length_pos_iff.mpr hp
    refine ⟨.poll 1, _, _, .chunk hd Nat.one_pos (by decide) hpos, Or.inr ⟨hb, ?_⟩⟩
    simp only [left, List.length_drop]
    omega

/-- **No schedule gets stuck**: a body that still reads can be brought to its end. -/
theorem exists_run_to_end {p : Publication} (hb : p.body = .reading) :
    ∃ (steps : List Step) (q : Publication) (rest : List UInt8),
      p.run steps = some (q, rest) ∧ q.body = .ended := by
  induction hn : p.left using Nat.strongRecOn generalizing p with
  | ind n ih =>
      subst hn
      obtain ⟨s, q, polled, ht, he | ⟨hr, hlt⟩⟩ := exists_taken hb
      · exact ⟨[s], q, bytesOf polled ++ [], run_cons.mpr ⟨q, polled, [], step_of_taken ht, rfl, rfl⟩, he⟩
      · obtain ⟨steps, q', rest, hrun, he⟩ := ih q.left hlt hr rfl
        exact ⟨s :: steps, q', bytesOf polled ++ rest,
          run_cons.mpr ⟨q, polled, rest, step_of_taken ht, hrun, rfl⟩, he⟩

end Publication

/-! ## At the top -/

theorem publish_eq_ok {a : Report.Artifact} {headers : Http.Headers} {p : Publication}
    (h : publish a = .ok (headers, p)) : headers = headersOf a ∧ p = .start a.bytes := by
  unfold publish at h
  split at h
  · injection h with h; injection h with h1 h2
    exact ⟨h1.symm, h2.symm⟩
  · exact absurd h (by simp)

/--
**A published artifact is handed out exactly, and its outcome is given once.**

Take any artifact that can be published and any schedule of its two ends. What has been handed out is
a prefix of the artifact, and all of it once the body has said that it ended. There is no outcome as
long as the body has neither ended nor been dropped; from then on there is one, no later step changes
it, and it tells whether all bytes were handed out. A body that has not been dropped can be read to
its end.
-/
theorem handed_out_exactly {a : Report.Artifact} {headers : Http.Headers} {p q : Publication}
    {steps : List Step} {out : List UInt8} (hp : publish a = .ok (headers, p))
    (hr : p.run steps = some (q, out)) :
    (out <+: a.bytes ∧ (.ended ∈ p.answers steps → out = a.bytes))
      ∧ (q.outcome = none ↔ .ended ∉ p.answers steps ∧ .drop ∉ steps)
      ∧ (∀ (more : List Step) (q' : Publication) (out' : List UInt8) (v : Outcome),
          q.run more = some (q', out') → q.outcome = some v → q'.outcome = some v)
      ∧ (∀ v : Outcome, q.outcome = some v →
          v = if out = a.bytes then .delivered a.size else .sinkClosed)
      ∧ (.drop ∉ steps → ∃ (more : List Step) (q' : Publication) (rest : List UInt8),
          q.run more = some (q', rest) ∧ out ++ rest = a.bytes
            ∧ q'.outcome = some (.delivered a.size)) := by
  obtain ⟨-, rfl⟩ := publish_eq_ok hp
  have hacc : q.Accounts a.bytes out := (Publication.accounts_start a.bytes).run hr
  have hreading : q.body = .reading ↔ .ended ∉ (Publication.start a.bytes).answers steps ∧ .drop ∉ steps := by
    rw [Publication.reading_of_run hr]
    exact and_iff_right rfl
  -- what the body says when it ends is true, and the outcome agrees with it
  have hended : .ended ∈ (Publication.start a.bytes).answers steps →
      out = a.bytes ∧ q.outcome = some (.delivered a.size) := by
    intro he
    have hv := Publication.outcome_of_ended (Publication.accounts_start a.bytes) hr he
    refine ⟨?_, hv⟩
    by_cases hout : out = a.bytes
    · exact hout
    · have := (hacc.outcome_eq_some_iff.mp hv).2
      rw [if_neg hout] at this
      exact absurd this (by simp)
  refine ⟨⟨⟨q.pipe ++ q.unsent, hacc.whole⟩, fun he => (hended he).1⟩, ?_, ?_, ?_, ?_⟩
  · rw [← hreading, hacc.settled]
    split
    · rename_i hb
      exact iff_of_true rfl hb
    · rename_i hb
      exact iff_of_false (by simp) hb
  · intro more q' out' v hmore hv
    exact Publication.outcome_of_run hmore hv
  · intro v hv
    exact (hacc.outcome_eq_some_iff.mp hv).2
  · intro hdrop
    by_cases he : .ended ∈ (Publication.start a.bytes).answers steps
    · obtain ⟨hout, hv⟩ := hended he
      exact ⟨[], q, [], rfl, by rw [List.append_nil, hout], hv⟩
    · obtain ⟨more, q', rest, hmore, hb⟩ := Publication.exists_run_to_end (hreading.mpr ⟨he, hdrop⟩)
      have hall : out ++ rest = a.bytes := (hacc.run hmore).eq_of_ended hb
      refine ⟨more, q', rest, hmore, hall, (hacc.run hmore).outcome_eq_some_iff.mpr ⟨?_, ?_⟩⟩
      · rw [hb]; simp
      · rw [if_pos hall]; rfl

/-- Three bytes, of which the caller takes two before it drops the body. -/
theorem handed_out_exactly_early_drop :
    ∃ (headers : Http.Headers) (p q : Publication), publish ⟨[65, 66, 10], .csv, "r.csv"⟩ = .ok (headers, p)
      ∧ p.run [.push 2, .poll 1, .push 1, .poll 1, .shut, .drop] = some (q, [65, 66])
      ∧ q.outcome = some .sinkClosed := by
  have hp : publish ⟨[65, 66, 10], .csv, "r.csv"⟩ = .ok (headersOf ⟨[65, 66, 10], .csv, "r.csv"⟩,
      .start [65, 66, 10]) := by
    rw [publish, if_pos (by decide)]
  have hr : (Publication.start [65, 66, 10]).run [.push 2, .poll 1, .push 1, .poll 1, .shut, .drop]
      = some (⟨3, [], [10], true, 2, .dropped, some .sinkClosed⟩, [65, 66]) := by decide
  exact ⟨_, _, _, hp, hr, congrArg some ((handed_out_exactly hp hr).2.2.2.1 _ rfl)⟩

end ReportServer.Delivery
