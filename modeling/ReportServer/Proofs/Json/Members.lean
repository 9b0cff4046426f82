import Mathlib.Data.List.Induction
import ReportServer.Json.Value

/-!
# The members of an object

Members are looked up by name. They may be put in order, and then there is one for each name, in the order of the
names; of members that had the same name the last is left. So putting members in order loses nothing for who looks
from behind (`lookup?_canonicalMembers`).
-/

namespace ReportServer.Json

variable {α β : Type} {name n : String} {value : α} {m : String × α} {ms : List (String × α)}

/-! ## Looking up -/

theorem lookup?_cons : lookup? n (m :: ms) = if m.1 = n then some m.2 else lookup? n ms := by
  by_cases h : m.1 = n
  · simp [lookup?, h]
  · simp [lookup?, h]

theorem lookup?_eq_none (h : ∀ m ∈ ms, m.1 ≠ n) : lookup? n ms = none := by
  rw [lookup?, Option.map_eq_none_iff, List.find?_eq_none]
  simpa using h

theorem mem_of_lookup?_eq_some (h : lookup? n ms = some value) : (n, value) ∈ ms := by
  obtain ⟨m, hm, rfl⟩ := Option.map_eq_some_iff.mp h
  obtain rfl : m.1 = n := by simpa using List.find?_some hm
  exact List.mem_of_find?_eq_some hm

/-! ## Putting in order -/

/-- Members in the order of their names, one for each name. -/
def InOrder (ms : List (String × α)) : Prop := ms.Pairwise fun m m' => m.1 < m'.1

theorem InOrder.lookup?_tail (h : InOrder (m :: ms)) : lookup? m.1 ms = none := by
  refine lookup?_eq_none fun m' hm' heq => String.lt_irrefl m.1 ?_
  simpa [heq] using List.rel_of_pairwise_cons h hm'

theorem lookup?_insertMember :
    lookup? n (insertMember name value ms) = if name = n then some value else lookup? n ms := by
  induction ms with
  | nil => rw [insertMember, lookup?_cons]
  | cons m ms ih =>
    simp only [insertMember, apply_ite (lookup? n), lookup?_cons, ih]
    by_cases hlt : name < m.1
    · rw [if_pos hlt]
    rw [if_neg hlt]
    by_cases heq : name = m.1
    · -- the member that gives way has the same name
      rw [if_pos heq, heq]
      split <;> rfl
    · rw [if_neg heq]
      by_cases hm : m.1 = n
      · rw [if_pos hm, if_pos hm, if_neg fun hn => heq (hn.trans hm.symm)]
      · rw [if_neg hm, if_neg hm]

theorem insertMember_map (f : α → β) : insertMember name (f value) (ms.map fun m => (m.1, f m.2))
    = (insertMember name value ms).map fun m => (m.1, f m.2) := by
  induction ms with
  | nil => rfl
  | cons m ms ih =>
    rw [List.map_cons]
    unfold insertMember
    split_ifs
    · rfl
    · rfl
    · rw [ih, List.map_cons]

theorem mem_insertMember (h : m ∈ insertMember name value ms) : m = (name, value) ∨ m ∈ ms := by
  induction ms with
  | nil => exact .inl (List.mem_singleton.mp h)
  | cons m' ms ih =>
    unfold insertMember at h
    split_ifs at h
    · exact List.mem_cons.mp h
    · exact (List.mem_cons.mp h).imp id (List.mem_cons_of_mem m')
    · rcases List.mem_cons.mp h with rfl | h
      · exact .inr List.mem_cons_self
      · exact (ih h).imp id (List.mem_cons_of_mem m')

theorem InOrder.insertMember (h : InOrder ms) : InOrder (insertMember name value ms) := by
  induction h with
  | nil => exact List.pairwise_singleton _ _
  | @cons m ms hm hms ih =>
    unfold Json.insertMember
    split_ifs with hlt heq
    · refine .cons (List.forall_mem_cons.mpr ⟨hlt, fun m' hm' => ?_⟩) (.cons hm hms)
      exact String.lt_trans hlt (hm m' hm')
    · exact .cons (heq ▸ hm) hms
    · refine .cons (fun m' hm' => ?_) ih
      rcases mem_insertMember hm' with rfl | hm'
      · exact Decidable.not_not.mp fun hge => heq (String.le_antisymm (String.not_lt.mp hge) (String.not_lt.mp hlt))
      · exact hm m' hm'

theorem canonicalMembers_concat :
    canonicalMembers (ms ++ [(name, value)]) = insertMember name value (canonicalMembers ms) := by
  rw [canonicalMembers, List.foldl_append]
  rfl

/-- **The last member of a name is the one that is left.** -/
theorem lookup?_canonicalMembers : lookup? n (canonicalMembers ms) = lookup? n ms.reverse := by
  induction ms using List.reverseRecOn with
  | nil => rfl
  | append_singleton ms m ih =>
    rw [canonicalMembers_concat, lookup?_insertMember, ih, List.reverse_concat, lookup?_cons]

theorem mem_of_mem_canonicalMembers (h : m ∈ canonicalMembers ms) : m ∈ ms := by
  induction ms using List.reverseRecOn with
  | nil => exact h
  | append_singleton ms m' ih =>
    rw [canonicalMembers_concat] at h
    rw [List.mem_append, List.mem_singleton]
    exact (mem_insertMember h).symm.imp_left ih

theorem canonicalMembers_map (f : α → β) (ms : List (String × α)) :
    canonicalMembers (ms.map fun m => (m.1, f m.2)) = (canonicalMembers ms).map fun m => (m.1, f m.2) := by
  induction ms using List.reverseRecOn with
  | nil => rfl
  | append_singleton ms m ih =>
    rw [List.map_append, List.map_singleton, canonicalMembers_concat, canonicalMembers_concat, ih, insertMember_map]

theorem inOrder_canonicalMembers (ms : List (String × α)) : InOrder (canonicalMembers ms) := by
  induction ms using List.reverseRecOn with
  | nil => exact .nil
  | append_singleton ms m ih =>
    rw [canonicalMembers_concat]
    exact ih.insertMember

end ReportServer.Json
