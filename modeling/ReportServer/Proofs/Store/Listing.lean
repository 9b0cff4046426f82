import Mathlib.Data.List.Basic
import ReportServer.Store.Catalogue

/-!
# A listing is a sorted view of the catalogue

A listing loses nothing and adds nothing: it holds the definitions of the catalogue in the order of their names and
ids, and of those that agree in both the one that was there first comes first. The listing of a group is the listing
of everything with the others left out, so the two never disagree about the order.

The second part rests on sorting being stable (`filter_mergeSort`). Which memberships were added, and not how often
or when, decides who belongs to a group.
-/

namespace ReportServer.Store

open Report (Definition)

/-! ## Sorting and leaving out -/

section Sorting

variable {α : Type} {le : α → α → Bool}

/-- A list can be cut at one place only so that behind the cut is what `a` may stand in front of. -/
theorem eq_of_cut_eq {a : α} {front back front' back' : List α} (h : front ++ back = front' ++ back')
    (hfront : ∀ b ∈ front, (!le a b) = true) (hback : ∀ b ∈ back, le a b = true)
    (hfront' : ∀ b ∈ front', (!le a b) = true) (hback' : ∀ b ∈ back', le a b = true) :
    front = front' ∧ back = back' := by
  -- both parts can be read off the whole
  have hcut : ∀ {front back : List α}, (∀ b ∈ front, (!le a b) = true) → (∀ b ∈ back, le a b = true) →
      (front ++ back).filter (fun b => !le a b) = front ∧ (front ++ back).filter (le a) = back := by
    intro front back hfront hback
    constructor
    · rw [List.filter_append, List.filter_eq_self.mpr hfront,
        List.filter_eq_nil_iff.mpr fun b hb => by simp [hback b hb], List.append_nil]
    · rw [List.filter_append, List.filter_eq_self.mpr hback,
        List.filter_eq_nil_iff.mpr fun b hb => by simpa using hfront b hb, List.nil_append]
  obtain ⟨hf, hb⟩ := hcut hfront hback
  obtain ⟨hf', hb'⟩ := hcut hfront' hback'
  rw [h] at hf hb
  exact ⟨hf.symm.trans hf', hb.symm.trans hb'⟩

/-- Sorting is stable, so it is all one whether a list is filtered before it is sorted or afterwards. -/
theorem filter_mergeSort (trans : ∀ a b c : α, le a b = true → le b c = true → le a c = true)
    (total : ∀ a b : α, (le a b || le b a) = true) (p : α → Bool) (l : List α) :
    (l.mergeSort le).filter p = (l.filter p).mergeSort le := by
  induction l with
  | nil => simp
  | cons a rest ih =>
      have hback : ∀ {l front back : List α}, (a :: l).mergeSort le = front ++ a :: back →
          ∀ b ∈ back, le a b = true := by
        intro l front back hl b hb
        have hsorted := List.pairwise_mergeSort trans total (a :: l)
        rw [hl] at hsorted
        exact List.rel_of_pairwise_cons (List.pairwise_append.mp hsorted).2.1 hb
      -- `a` is put in front of all that it may stand in front of, in the whole list and in what is left of it
      obtain ⟨front, back, hl, hrest, hfront⟩ := List.mergeSort_cons trans total a rest
      rw [hl, List.filter_append]
      rw [hrest, List.filter_append] at ih
      by_cases hp : p a = true
      · rw [List.filter_cons_of_pos hp, List.filter_cons_of_pos hp]
        obtain ⟨front', back', hl', hrest', hfront'⟩ := List.mergeSort_cons trans total a (rest.filter p)
        rw [hrest'] at ih
        obtain ⟨rfl, rfl⟩ := eq_of_cut_eq ih (fun b hb => hfront b (List.mem_filter.mp hb).1)
          (fun b hb => hback hl b (List.mem_filter.mp hb).1) hfront' (hback hl')
        exact hl'.symm
      · rw [List.filter_cons_of_neg hp, List.filter_cons_of_neg hp]
        exact ih

end Sorting

/-! ## The order of a listing -/

/-- The code points of a text. -/
def codePoints (s : String) : List Nat := s.toList.map Char.toNat

/-- Texts are ordered by their code points. -/
theorem lt_iff_codePoints_lt {s t : String} : s < t ↔ codePoints s < codePoints t := by
  show s.toList < t.toList ↔ s.toList.map Char.toNat < t.toList.map Char.toNat
  generalize s.toList = cs, t.toList = ds
  induction cs generalizing ds with
  | nil => cases ds <;> simp
  | cons c cs ih =>
      cases ds with
      | nil => simp
      | cons d ds =>
          simp only [List.map_cons, List.cons_lt_cons_iff, ih, Char.lt_def, UInt32.lt_iff_toNat_lt, Char.toNat_inj]
          rfl

/-- `Precedes a b`: by the code points of their names, and where those agree by their ids, `a` may stand before `b`. -/
def Precedes (a b : Definition) : Prop :=
  codePoints a.name < codePoints b.name ∨ (a.name = b.name ∧ a.id ≤ b.id)

theorem listedBefore_iff {a b : Definition} : listedBefore a b = true ↔ Precedes a b := by
  rw [listedBefore, Precedes, ← lt_iff_codePoints_lt, Bool.or_eq_true, Bool.and_eq_true, decide_eq_true_iff, beq_iff_eq,
    decide_eq_true_iff]

theorem listedBefore_trans (a b c : Definition) (hab : listedBefore a b = true) (hbc : listedBefore b c = true) :
    listedBefore a c = true := by
  rw [listedBefore_iff] at *
  rcases hab with hab | ⟨hname, hab⟩
  · rcases hbc with hbc | ⟨hname', -⟩
    · exact Or.inl (List.lt_trans hab hbc)
    · exact Or.inl (hname' ▸ hab)
  · rcases hbc with hbc | ⟨hname', hbc⟩
    · exact Or.inl (hname ▸ hbc)
    · exact Or.inr ⟨hname.trans hname', Int64.le_trans hab hbc⟩

theorem listedBefore_total (a b : Definition) : (listedBefore a b || listedBefore b a) = true := by
  rw [Bool.or_eq_true, listedBefore_iff, listedBefore_iff]
  by_cases hlt : a.name < b.name
  · exact Or.inl (Or.inl (lt_iff_codePoints_lt.mp hlt))
  by_cases hgt : b.name < a.name
  · exact Or.inr (Or.inl (lt_iff_codePoints_lt.mp hgt))
  have hname : a.name = b.name := String.le_antisymm (String.not_lt.mp hgt) (String.not_lt.mp hlt)
  rcases Int64.le_total a.id b.id with hle | hle
  · exact Or.inl (Or.inr ⟨hname, hle⟩)
  · exact Or.inr (Or.inr ⟨hname.symm, hle⟩)

namespace Catalogue

/-- A catalogue that is asked for everything. -/
theorem list_none (c : Catalogue) : c.list none = c.definitions.mergeSort listedBefore := rfl

/-- The listing of a group is the listing of everything without the others. -/
theorem list_some (c : Catalogue) (group : String) :
    c.list (some group) = (c.list none).filter fun d => c.isMember group d.id :=
  (filter_mergeSort listedBefore_trans listedBefore_total _ _).symm

/-- Definitions that agree in name and id are listed in the order in which the catalogue has them. -/
theorem filter_list_none (c : Catalogue) (name : String) (id : Int64) :
    (c.list none).filter (fun d => d.name = name ∧ d.id = id)
      = c.definitions.filter fun d => d.name = name ∧ d.id = id := by
  rw [list_none, filter_mergeSort listedBefore_trans listedBefore_total]
  refine List.mergeSort_of_pairwise (List.pairwise_of_forall_mem_list fun a ha b hb => ?_)
  obtain ⟨hname, hid⟩ := of_decide_eq_true (List.mem_filter.mp ha).2
  obtain ⟨hname', hid'⟩ := of_decide_eq_true (List.mem_filter.mp hb).2
  exact listedBefore_iff.mpr (Or.inr ⟨hname.trans hname'.symm, Int64.le_of_eq (hid.trans hid'.symm)⟩)

/-! ## Memberships -/

/-- The catalogue with members added to groups, one after the other. -/
def addMembers (c : Catalogue) (added : List (String × Int64)) : Catalogue :=
  added.foldl (fun c m => c.addMember m.1 m.2) c

theorem addMembers_eq (c : Catalogue) (added : List (String × Int64)) :
    c.addMembers added = ⟨c.definitions, c.members ++ added⟩ := by
  induction added generalizing c with
  | nil => simp [addMembers]
  | cons m rest ih =>
      have hstep : c.addMembers (m :: rest) = (c.addMember m.1 m.2).addMembers rest := rfl
      rw [hstep, ih, addMember, List.append_assoc, List.singleton_append]

/-- Who belongs to a group is who was added to it. -/
theorem isMember_addMembers (ds : List Definition) (added : List (String × Int64)) (group : String) (id : Int64) :
    ((ofDefinitions ds).addMembers added).isMember group id = decide ((group, id) ∈ added) := by
  rw [addMembers_eq]
  rfl

theorem list_none_addMembers (ds : List Definition) (added : List (String × Int64)) :
    ((ofDefinitions ds).addMembers added).list none = (ofDefinitions ds).list none := by
  rw [addMembers_eq]
  rfl

theorem list_some_addMembers (ds : List Definition) (added : List (String × Int64)) (group : String) :
    ((ofDefinitions ds).addMembers added).list (some group)
      = ((ofDefinitions ds).list none).filter fun d => (group, d.id) ∈ added := by
  rw [list_some, list_none_addMembers]
  exact List.filter_congr fun d _ => isMember_addMembers ds added group d.id

/-! ## At the top -/

/-- `SortedView ds added c`: the listings of `c` show the definitions `ds`, with these members added to groups. -/
structure SortedView (ds : List Definition) (added : List (String × Int64)) (c : Catalogue) : Prop where
  /-- The listing of everything loses nothing and adds nothing. -/
  perm : (c.list none).Perm ds
  /-- It is in order, -/
  sorted : (c.list none).Pairwise Precedes
  /-- and of those that agree in name and id the first one comes first. -/
  stable : ∀ (name : String) (id : Int64),
    (c.list none).filter (fun d => d.name = name ∧ d.id = id) = ds.filter fun d => d.name = name ∧ d.id = id
  /-- The listing of a group is what is left of it without those that were not added to the group. -/
  group : ∀ g : String, c.list (some g) = (c.list none).filter fun d => (g, d.id) ∈ added
  /-- Each of them is listed as often as there is one, however often it was added. -/
  count : ∀ (g : String) (d : Definition),
    (c.list (some g)).count d = if (g, d.id) ∈ added then ds.count d else 0
  /-- A group that nothing was added to is empty. -/
  empty : ∀ g : String, (∀ id : Int64, (g, id) ∉ added) → c.list (some g) = []
  /-- In which order members were added, and how often each of them was, does not matter. -/
  unordered : ∀ added' : List (String × Int64), (∀ m : String × Int64, m ∈ added' ↔ m ∈ added) →
    ∀ group : Option String, ((Catalogue.ofDefinitions ds).addMembers added').list group = c.list group

/-- **A listing is a sorted view of the catalogue**, whatever definitions it was made of and whatever members were
added to its groups. -/
theorem list_sortedView (ds : List Definition) (added : List (String × Int64)) :
    SortedView ds added ((ofDefinitions ds).addMembers added) := by
  have hall : ((ofDefinitions ds).list none).Perm ds := List.mergeSort_perm ds listedBefore
  constructor
  case perm =>
    rw [list_none_addMembers]
    exact hall
  case sorted =>
    rw [list_none_addMembers, list_none]
    exact (List.pairwise_mergeSort listedBefore_trans listedBefore_total _).imp listedBefore_iff.mp
  case stable =>
    intro name id
    rw [list_none_addMembers, filter_list_none]
    rfl
  case group =>
    intro g
    rw [list_some_addMembers, list_none_addMembers]
  case count =>
    intro g d
    rw [list_some_addMembers]
    split
    · rename_i hmem
      rw [List.count_filter (p := fun d : Definition => decide ((g, d.id) ∈ added)) (decide_eq_true hmem),
        hall.count_eq]
    · rename_i hmem
      exact List.count_eq_zero.mpr fun hd => hmem (of_decide_eq_true (List.mem_filter.mp hd).2)
  case empty =>
    intro g hnone
    rw [list_some_addMembers]
    exact List.filter_eq_nil_iff.mpr fun d _ => by simpa using hnone d.id
  case unordered =>
    intro added' hsame group
    cases group with
    | none => rw [list_none_addMembers, list_none_addMembers]
    | some g =>
        rw [list_some_addMembers, list_some_addMembers]
        exact List.filter_congr fun d _ => by rw [decide_eq_decide]; exact hsame (g, d.id)

end Catalogue

end ReportServer.Store
