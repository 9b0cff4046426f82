import ReportServer.Delivery.Reading
import ReportServer.Proofs.Delivery.Handover

/-!
# Who reads on comes to the end

A caller who reads a body to its end is given one pull for every byte that is left, and one more. That is
enough: as long as the body reads, a pull brings bytes or the end, so when the last byte has come there is still a
pull for the end. At the end nothing is left behind, and what the caller has are the bytes of the artifact.
-/

namespace ReportServer.Delivery

namespace Publication

variable {p : Publication}

/-! ## Nearer to the end -/

/-- How many bytes are still to be handed out. -/
def remaining (p : Publication) : Nat := p.unsent.length + p.pipe.length

/-- `p.Advances steps`: taken from `p`, the steps come to the end of the body, or nearer to it by some bytes. -/
def Advances (p : Publication) (steps : List Step) : Prop :=
  ∃ (q : Publication) (more : List UInt8), p.run steps = some (q, more)
    ∧ (q.body = .ended ∨ q.body = .reading ∧ q.remaining < p.remaining)

/-- Steps that bring nothing may come first, if they leave as many bytes to be handed out. -/
theorem Advances.append {q : Publication} {first second : List Step} {more : List UInt8}
    (hfirst : p.run first = some (q, more)) (hq : q.remaining = p.remaining) (h : q.Advances second) :
    p.Advances (first ++ second) := by
  obtain ⟨q', more', hrun, hq'⟩ := h
  exact ⟨q', more ++ more', run_append.mpr ⟨q, more, more', hfirst, hrun, rfl⟩, hq ▸ hq'⟩

/-- A pipe that is not dry has a chunk for whoever asks, -/
theorem advances_chunk {n : Nat} (hb : p.body = .reading) (hn : 0 < n) (hp : n ≤ p.pipe.length) :
    p.Advances [.poll (min chunkLimit n)] := by
  have hpos : 0 < min chunkLimit n := Nat.lt_min.mpr ⟨by decide, hn⟩
  have hchunk := Taken.chunk (p := p) (by rw [hb]; decide) hpos (Nat.min_le_left _ _)
    (Nat.le_trans (Nat.min_le_right _ _) hp)
  refine ⟨_, _, run_cons.mpr ⟨_, _, [], step_of_taken hchunk, rfl, rfl⟩, Or.inr ⟨hb, ?_⟩⟩
  simp only [remaining, List.length_drop]
  omega

/-- and one that is dry and shut has the end. -/
theorem advances_end {n : Nat} (hb : p.body = .reading) (hp : p.pipe = []) (hs : p.shut = true) :
    p.Advances [.poll n] := by
  have hend := Taken.ended (p := p) (n := n) (by rw [hb]; decide) hp hs
  exact ⟨_, _, run_cons.mpr ⟨_, _, [], step_of_taken hend, rfl, rfl⟩, Or.inl rfl⟩

/-! ## The writer's turn -/

/-- What the writer pushes goes from what is unsent into the pipe. -/
theorem run_push {n : Nat} (hb : p.body = .reading) (hn : n ≤ p.pushable) :
    p.run (if 0 < n then [.push n] else [])
      = some ({ p with unsent := p.unsent.drop n, pipe := p.pipe ++ p.unsent.take n }, []) := by
  obtain ⟨hunsent, hroom⟩ := Nat.le_min.mp hn
  split
  · rename_i hpos
    have hpush := Taken.push (p := p) (by rw [hb]; decide) hpos hunsent (by omega)
    exact run_cons.mpr ⟨_, _, [], step_of_taken hpush, rfl, rfl⟩
  · rename_i hzero
    obtain rfl : n = 0 := Nat.eq_zero_of_not_pos hzero
    simp [run]

/-- Shutting its end changes nothing else. -/
theorem exists_run_shut {c : Prop} [Decidable c] (hc : c → p.unsent = [] ∧ p.shut = false) :
    ∃ shut : Bool, p.run (if c then [.shut] else []) = some ({ p with shut }, [])
      ∧ (shut = true ↔ p.shut = true ∨ c) := by
  split
  · rename_i h
    obtain ⟨hu, hs⟩ := hc h
    exact ⟨true, run_cons.mpr ⟨_, _, [], step_of_taken (.shut hu hs), rfl, rfl⟩, by simp [h]⟩
  · rename_i h
    exact ⟨p.shut, rfl, by simp [h]⟩

/-- When the pipe is dry, the writer fills it, and shuts its end if there is nothing left. -/
theorem exists_run_writerSteps (hb : p.body = .reading) (hp : p.pipe = []) :
    ∃ q : Publication, p.run (p.writerSteps p.pushable) = some (q, []) ∧ q.body = .reading
      ∧ q.pipe = p.unsent.take p.pushable ∧ q.remaining = p.remaining
      ∧ (p.unsent = [] → q.shut = true) := by
  have hle : p.pushable ≤ p.unsent.length := Nat.min_le_left _ _
  obtain ⟨shut, hshut, hiff⟩ := exists_run_shut
    (p := { p with unsent := p.unsent.drop p.pushable, pipe := p.pipe ++ p.unsent.take p.pushable })
    (c := p.pushable = p.unsent.length ∧ (!p.shut) = true)
    fun hc => ⟨List.drop_eq_nil_of_le (Nat.le_of_eq hc.1.symm), by simpa using hc.2⟩
  refine ⟨_, run_append.mpr ⟨_, [], [], run_push hb (Nat.le_refl _), hshut, rfl⟩, hb, ?_, ?_, ?_⟩
  · simp [hp]
  · simp only [remaining, hp, List.nil_append, List.length_drop, List.length_take, List.length_nil]
    omega
  · intro hu
    refine hiff.mpr ?_
    cases hs : p.shut with
    | true => exact Or.inl rfl
    | false => exact Or.inr ⟨by simp [pushable, hu], rfl⟩

/-! ## One pull -/

/-- **As long as the body reads, a pull brings bytes or the end.** -/
theorem advances_pullSteps (hb : p.body = .reading) : p.Advances p.pullSteps := by
  rw [pullSteps]
  by_cases hp : p.pipe = []
  · obtain ⟨q, hrun, hqb, hqp, hleft, hqs⟩ := exists_run_writerSteps hb hp
    rw [if_pos (by simp [hp])]
    refine .append hrun hleft ?_
    by_cases hu : p.unsent = []
    · exact advances_end hqb (by rw [hqp, hu, List.take_nil]) (hqs hu)
    · -- the pipe is dry, so there is room for at least one byte
      have hpos : 0 < p.pushable :=
        Nat.lt_min.mpr ⟨List.length_pos_iff.mpr hu, by rw [hp]; decide⟩
      refine advances_chunk hqb hpos ?_
      rw [hqp, List.length_take]
      exact Nat.le_min.mpr ⟨Nat.le_refl _, Nat.min_le_left _ _⟩
  · rw [if_neg (by simp [hp])]
    exact advances_chunk hb (List.length_pos_iff.mpr hp) (Nat.le_refl _)

end Publication

namespace Reading

variable {data : List UInt8} {r : Reading}

/-- What has been received and what is left make up `data`. -/
def Holds (data : List UInt8) (r : Reading) : Prop := Publication.Accounts data r.bytes r.publication

/-- A pull keeps the account. -/
theorem exists_next (h : r.Holds data) (hb : r.publication.body = .reading) :
    ∃ r' : Reading, r.next = some r' ∧ r'.Holds data ∧ (r'.publication.body = .ended
      ∨ r'.publication.body = .reading ∧ r'.publication.remaining < r.publication.remaining) := by
  obtain ⟨q, more, hrun, hq⟩ := Publication.advances_pullSteps hb
  refine ⟨_, by rw [next, hrun, Option.map_some], ?_, hq⟩
  have hbytes : (r.received ++ if more.isEmpty then [] else [more]).flatten = r.bytes ++ more := by
    cases more <;> simp [bytes]
  show Publication.Accounts data (r.received ++ if more.isEmpty then [] else [more]).flatten q
  rw [hbytes]
  exact Publication.Accounts.run h hrun

/-- With more pulls than there are bytes the end is reached. By induction on the pulls: each of them is the last
one, or leaves fewer bytes to the others. -/
theorem ended_pull {fuel : Nat} (h : r.Holds data) (hb : r.publication.body = .reading)
    (hfuel : r.publication.remaining < fuel) :
    (r.pull .toEnd fuel).Holds data ∧ (r.pull .toEnd fuel).publication.body = .ended := by
  induction fuel generalizing r with
  | zero => exact absurd hfuel (Nat.not_lt_zero _)
  | succ fuel ih =>
      obtain ⟨r', hnext, hr', hend | ⟨hreading, hless⟩⟩ := exists_next h hb
      · have hpull : r.pull .toEnd (fuel + 1) = r' := by
          simp only [pull, ReadMode.enough, hb, hnext]
          cases fuel with
          | zero => rfl
          | succ => simp [pull, hend]
        rw [hpull]
        exact ⟨hr', hend⟩
      · have hpull : r.pull .toEnd (fuel + 1) = r'.pull .toEnd fuel := by
          simp [pull, ReadMode.enough, hb, hnext]
        rw [hpull]
        exact ih hr' hreading (by omega)

theorem bytes_finish (r : Reading) : r.finish.bytes = r.bytes := by
  rw [finish]
  split <;> rfl

end Reading

/-- **Read to its end, a body brings the bytes of the artifact.** -/
theorem bytes_read_toEnd (bytes : List UInt8) : (read .toEnd (.start bytes)).bytes = bytes := by
  have hstart : Reading.Holds bytes ⟨[], .start bytes, []⟩ := Publication.accounts_start bytes
  have hfuel : (Publication.start bytes).remaining < Reading.pullsFor (.start bytes) := Nat.lt_succ_self _
  obtain ⟨hholds, hended⟩ := Reading.ended_pull hstart rfl hfuel
  rw [read, Reading.bytes_finish]
  exact Publication.Accounts.eq_of_ended hholds hended

end ReportServer.Delivery
