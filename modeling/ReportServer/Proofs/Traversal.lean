import Mathlib.Data.List.Forall2
import Mathlib.Data.List.Nodup

/-!
# Going through a list

Something is done for each element of a list in turn, and it may fail. Then everything has failed, with the failure of
the first element that failed; otherwise there is one result for each element, in order.

A list may also be gone through for the element that has a key, and if the keys differ there is no other one.
-/

namespace ReportServer

variable {ε α β : Type} {f : α → Except ε β} {as : List α} {bs : List β}

/-! ## One step after another -/

theorem ok_bind (a : α) (f : α → Except ε β) : (Except.ok a).bind f = f a := rfl

theorem bind_eq_ok {x : Except ε α} {b : β} : x.bind f = .ok b ↔ ∃ a, x = .ok a ∧ f a = .ok b := by
  cases x <;> simp [Except.bind]

theorem map_eq_ok {x : Except ε α} {f : α → β} {b : β} : x.map f = .ok b ↔ ∃ a, x = .ok a ∧ f a = b := by
  cases x <;> simp [Except.map]

/-! ## One element after another -/

theorem mapM_cons_of_error {a : α} {e : ε} (h : f a = .error e) : (a :: as).mapM f = .error e := by
  rw [List.mapM_cons, h]
  rfl

theorem mapM_cons_of_ok {a : α} {b : β} (h : f a = .ok b) :
    (a :: as).mapM f = (as.mapM f).map (b :: ·) := by
  rw [List.mapM_cons, h]
  cases as.mapM f <;> rfl

theorem mapM_eq_ok_iff : as.mapM f = .ok bs ↔ List.Forall₂ (fun a b => f a = .ok b) as bs := by
  constructor
  · intro h
    induction as generalizing bs with
    | nil =>
        injection h with h
        subst h
        exact .nil
    | cons a rest ih =>
        cases ha : f a with
        | error e =>
            rw [mapM_cons_of_error ha] at h
            exact absurd h (by simp)
        | ok b =>
            rw [mapM_cons_of_ok ha] at h
            cases hrest : rest.mapM f with
            | error e =>
                rw [hrest] at h
                exact absurd h (by simp [Except.map])
            | ok cs =>
                rw [hrest] at h
                injection h with h
                subst h
                exact .cons ha (ih hrest)
  · intro h
    induction h with
    | nil => rfl
    | cons ha _ ih =>
        rw [mapM_cons_of_ok ha, ih]
        rfl

/-- Where nothing fails there is a result. -/
theorem exists_mapM_eq_ok (h : ∀ a ∈ as, ∃ b : β, f a = .ok b) : ∃ bs : List β, as.mapM f = .ok bs := by
  induction as with
  | nil => exact ⟨[], rfl⟩
  | cons a rest ih =>
      obtain ⟨b, hb⟩ := h a List.mem_cons_self
      obtain ⟨bs, hbs⟩ := ih fun c hc => h c (List.mem_cons_of_mem a hc)
      exact ⟨b :: bs, by rw [mapM_cons_of_ok hb, hbs]; rfl⟩

/-- Where something fails, what fails first is the failure of all. -/
theorem mapM_eq_error {before after : List α} {a : α} {e : ε} (hbefore : ∀ b ∈ before, ∃ c : β, f b = .ok c)
    (ha : f a = .error e) : (before ++ a :: after).mapM f = .error e := by
  induction before with
  | nil => exact mapM_cons_of_error ha
  | cons b rest ih =>
      obtain ⟨c, hc⟩ := hbefore b List.mem_cons_self
      rw [List.cons_append, mapM_cons_of_ok hc, ih fun d hd => hbefore d (List.mem_cons_of_mem b hd)]
      rfl

/-- A failure is the failure of some element. -/
theorem exists_of_mapM_eq_error {e : ε} (h : as.mapM f = .error e) : ∃ a ∈ as, f a = .error e := by
  induction as with
  | nil => exact absurd h (by simp [pure, Except.pure])
  | cons a rest ih =>
      cases ha : f a with
      | error e' =>
          rw [mapM_cons_of_error ha] at h
          injection h with h
          subst h
          exact ⟨a, List.mem_cons_self, ha⟩
      | ok b =>
          rw [mapM_cons_of_ok ha] at h
          cases hrest : rest.mapM f with
          | ok bs =>
              rw [hrest] at h
              exact absurd h (by simp [Except.map])
          | error e' =>
              rw [hrest] at h
              injection h with h
              subst h
              obtain ⟨c, hc, he⟩ := ih hrest
              exact ⟨c, List.mem_cons_of_mem a hc, he⟩

/-- It may also fail without saying why. -/
theorem mapM_eq_some_iff {f : α → Option β} : as.mapM f = some bs ↔ List.Forall₂ (fun a b => f a = some b) as bs := by
  induction as generalizing bs with
  | nil => cases bs <;> simp
  | cons a rest ih =>
      simp only [List.mapM_cons, Option.bind_eq_bind, Option.bind_eq_some_iff, Option.pure_def, Option.some.injEq]
      constructor
      · rintro ⟨b, ha, cs, hrest, rfl⟩
        exact .cons ha (ih.mp hrest)
      · rintro (_ | ⟨ha, hrest⟩)
        exact ⟨_, ha, _, ih.mpr hrest, rfl⟩

/-! ## Places -/

theorem forall₂_iff_getElem? {R : α → β → Prop} : List.Forall₂ R as bs ↔ as.length = bs.length
    ∧ ∀ (i : Nat) (a : α) (b : β), as[i]? = some a → bs[i]? = some b → R a b := by
  rw [List.forall₂_iff_get]
  refine and_congr_right fun _ => ⟨fun h i a b ha hb => ?_, fun h i hi hi' => ?_⟩
  · obtain ⟨hi, rfl⟩ := List.getElem?_eq_some_iff.mp ha
    obtain ⟨hi', rfl⟩ := List.getElem?_eq_some_iff.mp hb
    exact h i hi hi'
  · exact h i _ _ (List.getElem?_eq_getElem hi) (List.getElem?_eq_getElem hi')

/-- Lists of one length have the same places. -/
theorem exists_getElem?_of_length_eq (h : as.length = bs.length) {i : Nat} {a : α} (ha : as[i]? = some a) :
    ∃ b : β, bs[i]? = some b := by
  have hlt : i < bs.length := h ▸ (List.getElem?_eq_some_iff.mp ha).1
  exact ⟨bs[i], List.getElem?_eq_getElem hlt⟩

theorem exists_mem_of_forall₂ {R : α → β → Prop} (h : List.Forall₂ R as bs) {b : β} (hb : b ∈ bs) :
    ∃ a ∈ as, R a b := by
  obtain ⟨hlen, hR⟩ := forall₂_iff_getElem?.mp h
  obtain ⟨i, hi⟩ := List.mem_iff_getElem?.mp hb
  obtain ⟨a, ha⟩ := exists_getElem?_of_length_eq hlen.symm hi
  exact ⟨a, List.mem_of_getElem? ha, hR i a b ha hi⟩

/-- What is done for an element may depend on its place. -/
theorem mapM_zipIdx_eq_ok_iff {f : α × Nat → Except ε β} : as.zipIdx.mapM f = .ok bs ↔ as.length = bs.length
    ∧ ∀ (i : Nat) (a : α) (b : β), as[i]? = some a → bs[i]? = some b → f (a, i) = .ok b := by
  rw [mapM_eq_ok_iff, forall₂_iff_getElem?, List.length_zipIdx]
  refine and_congr_right fun _ => ⟨fun h i a b ha hb => h i (a, i) b ?_ hb, fun h i x b hx hb => ?_⟩
  · rw [List.getElem?_zipIdx, ha, Option.map_some, Nat.zero_add]
  · rw [List.getElem?_zipIdx, Option.map_eq_some_iff] at hx
    obtain ⟨a, ha, rfl⟩ := hx
    rw [Nat.zero_add]
    exact h i a b ha hb

/-! ## Keys -/

/-- Where no two elements have the same key, what is found under a key is the element that has it. -/
theorem find?_key_eq_some_iff {κ : Type} [BEq κ] [LawfulBEq κ] {key : α → κ} (h : (as.map key).Nodup) {k : κ} {a : α} :
    (as.find? fun x => key x == k) = some a ↔ a ∈ as ∧ key a = k := by
  constructor
  · intro hfound
    exact ⟨List.mem_of_find?_eq_some hfound, by simpa using List.find?_some hfound⟩
  · rintro ⟨ha, rfl⟩
    -- something is found, as `a` is there to be found
    obtain ⟨x, hx⟩ : ∃ x : α, (as.find? fun x => key x == key a) = some x :=
      Option.isSome_iff_exists.mp (List.find?_isSome.mpr ⟨a, ha, beq_self_eq_true (key a)⟩)
    have hkey : key x = key a := by simpa using List.find?_some hx
    obtain rfl : x = a := List.inj_on_of_nodup_map h (List.mem_of_find?_eq_some hx) ha hkey
    exact hx

end ReportServer
