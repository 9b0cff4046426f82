import ReportServer.Directory.Graph
import ReportServer.Proofs.Json.Documents
import ReportServer.Proofs.Json.Strings
import ReportServer.Proofs.Traversal

/-!
# Which bodies describe a user

The remote directory describes a user by a JSON document. It has to give an id. It may give a name to show, a mail
address and a principal name, and each of them may be null or left out. Whatever else is in the document is not looked
at. A document that gives one of these things twice or in another form describes nobody, and no more does a body that
is no document (`Profile.ofBody?_eq_some_iff`).
-/

namespace ReportServer.Directory.Graph

open Json (Document Means Outline)

/-! ## Values -/

/-- `TextOrNull v o`: the value is a text, or null. -/
inductive TextOrNull : Outline → Option String → Prop
  | null : TextOrNull .null none
  | text {w : List Char} {t : String} : Means w t → TextOrNull (.text w) (some t)

theorem said?_eq_some_iff {v : Outline} {t : String} : v.said? = some t ↔ ∃ w, v = .text w ∧ Means w t := by
  cases v with
  | text w =>
    rw [Outline.said?, Json.said?_eq_some_iff]
    constructor
    · intro h
      exact ⟨w, rfl, h⟩
    · rintro ⟨_, ⟨⟩, h⟩
      exact h
  | null | scalar | arr | obj => simp [Outline.said?]

theorem textOrNull_eq_some_iff {v : Outline} {o : Option String} : textOrNull v = some o ↔ TextOrNull v o := by
  constructor
  · intro h
    unfold textOrNull at h
    split at h
    · obtain rfl := Option.some.inj h
      exact .null
    · obtain ⟨t, ht, rfl⟩ := Option.map_eq_some_iff.mp h
      obtain ⟨w, rfl, hw⟩ := said?_eq_some_iff.mp ht
      exact .text hw
  · rintro (_ | hw)
    · rfl
    · rw [textOrNull, said?_eq_some_iff.mpr ⟨_, rfl, hw⟩]
      · rfl
      · simp

/-! ## Members -/

variable {members : List (String × Outline)} {name : String} {v : Outline} {o : Option String}

/-- No member has this name. -/
def LeavesOut (name : String) (members : List (String × Outline)) : Prop := ∀ m ∈ members, m.1 ≠ name

/-- `Sends name members v`: one member has this name and this value, and no other member has the name. -/
inductive Sends (name : String) : List (String × Outline) → Outline → Prop
  | mk {before after : List (String × Outline)} {v : Outline} : LeavesOut name before → LeavesOut name after →
    Sends name (before ++ (name, v) :: after) v

/-- `Gives name members o`: the member of this name is a text, null, or left out. -/
inductive Gives (name : String) (members : List (String × Outline)) : Option String → Prop
  | leftOut : LeavesOut name members → Gives name members none
  | sent {v : Outline} {o : Option String} : Sends name members v → TextOrNull v o → Gives name members o

theorem filter_eq_nil_iff : members.filter (·.1 == name) = [] ↔ LeavesOut name members := by
  simp [LeavesOut, List.filter_eq_nil_iff]

theorem sent_eq_none_iff : sent members name = some none ↔ LeavesOut name members := by
  rw [← filter_eq_nil_iff, sent]
  generalize members.filter (·.1 == name) = found
  rcases found with _ | ⟨m, _ | ⟨m', rest⟩⟩ <;> simp

theorem sent_eq_some_iff : sent members name = some (some v) ↔ Sends name members v := by
  have hfilter : sent members name = some (some v) ↔ ∃ n, members.filter (·.1 == name) = [(n, v)] := by
    rw [sent]
    generalize members.filter (·.1 == name) = found
    rcases found with _ | ⟨⟨n, v'⟩, _ | ⟨m', rest⟩⟩ <;> simp
  rw [hfilter]
  constructor
  · rintro ⟨n, h⟩
    obtain ⟨before, after, rfl, hbefore, hn, hafter⟩ := List.filter_eq_cons_iff.mp h
    obtain rfl : n = name := by simpa using hn
    exact .mk (by simpa [LeavesOut] using hbefore) (filter_eq_nil_iff.mp hafter)
  · rintro ⟨hbefore, hafter⟩
    refine ⟨name, ?_⟩
    rw [List.filter_append, filter_eq_nil_iff.mpr hbefore, List.filter_cons_of_pos (by simp),
      filter_eq_nil_iff.mpr hafter, List.nil_append]

theorem optionalField_eq_some_iff : optionalField members name = some o ↔ Gives name members o := by
  unfold optionalField
  rw [Option.bind_eq_bind, Option.bind_eq_some_iff]
  constructor
  · rintro ⟨found, hsent, h⟩
    cases found with
    | none =>
      obtain rfl := Option.some.inj h
      exact .leftOut (sent_eq_none_iff.mp hsent)
    | some v => exact .sent (sent_eq_some_iff.mp hsent) (textOrNull_eq_some_iff.mp h)
  · rintro (h | ⟨hsends, h⟩)
    · exact ⟨none, sent_eq_none_iff.mpr h, rfl⟩
    · exact ⟨some _, sent_eq_some_iff.mpr hsends, textOrNull_eq_some_iff.mpr h⟩

/-! ## Profiles -/

/-- What the names of members mean. -/
def Named (members : List (List Char × Outline)) (named : List (String × Outline)) : Prop :=
  List.Forall₂ (fun m n => Means m.1 n.1 ∧ m.2 = n.2) members named

/-- `Profiles v p`: a document of this outline describes the user of this profile. -/
inductive Profiles : Outline → Profile → Prop
  /-- By an object with an id among its members. -/
  | object {members : List (List Char × Outline)} {named : List (String × Outline)} {w : List Char} {p : Profile} :
    Named members named → Sends "id" named (.text w) → Means w p.id → Gives "displayName" named p.displayName →
    Gives "mail" named p.mail → Gives "userPrincipalName" named p.principalName → Profiles (.obj members) p
  /-- By an array of an id and the others in order, of which the last may be missing. -/
  | array {w : List Char} {rest : List Outline} {given : List (Option String)} {missing : Nat} {p : Profile} :
    Means w p.id → List.Forall₂ TextOrNull rest given →
    given ++ List.replicate missing none = [p.displayName, p.mail, p.principalName] →
    Profiles (.arr (.text w :: rest)) p

/-- The fields that are there, and none for each one missing at the end. -/
theorem given_append_replicate_iff {given : List (Option String)} {a b c : Option String} :
    (∃ missing, given ++ List.replicate missing none = [a, b, c]) ↔
      given.length ≤ 3 ∧ (given[0]?).join = a ∧ (given[1]?).join = b ∧ (given[2]?).join = c := by
  constructor
  · rintro ⟨missing, h⟩
    have hlength : given.length + missing = 3 := by simpa using congrArg List.length h
    have hget : ∀ i < 3, ([a, b, c][i]?).join = (given[i]?).join := by
      intro i hi
      rw [← h, List.getElem?_append]
      split
      · rfl
      · next hout =>
        rw [List.getElem?_eq_none (Nat.not_lt.mp hout), List.getElem?_replicate]
        split <;> rfl
    exact ⟨by omega, (hget 0 (by omega)).symm, (hget 1 (by omega)).symm, (hget 2 (by omega)).symm⟩
  · rintro ⟨hlength, rfl, rfl, rfl⟩
    refine ⟨3 - given.length, ?_⟩
    rcases given with _ | ⟨x, _ | ⟨y, _ | ⟨z, _ | ⟨u, more⟩⟩⟩⟩
    · rfl
    · rfl
    · rfl
    · rfl
    · simp only [List.length_cons] at hlength
      omega

theorem named_iff {members : List (List Char × Outline)} {named : List (String × Outline)} :
    List.Forall₂ (fun m n => (Json.said? m.1).map (·, m.2) = some n) members named ↔ Named members named := by
  have hmember : ∀ (m : List Char × Outline) (n : String × Outline),
      (Json.said? m.1).map (·, m.2) = some n ↔ Means m.1 n.1 ∧ m.2 = n.2 := by
    intro m n
    rw [← Json.said?_eq_some_iff, Option.map_eq_some_iff]
    constructor
    · rintro ⟨t, ht, rfl⟩
      exact ⟨ht, rfl⟩
    · rintro ⟨ht, hv⟩
      exact ⟨n.1, ht, by rw [hv]⟩
  simp only [hmember, Named]

theorem Profile.ofOutline?_obj_eq_some_iff {members : List (List Char × Outline)} {p : Profile} :
    Profile.ofOutline? (.obj members) = some p ↔ Profiles (.obj members) p := by
  obtain ⟨id, displayName, mail, principalName⟩ := p
  simp only [ofOutline?, Option.bind_eq_bind, Option.bind_eq_some_iff, mapM_eq_some_iff, optionalField_eq_some_iff,
    said?_eq_some_iff, Option.pure_def, Option.some.injEq, mk.injEq]
  constructor
  · rintro ⟨named, hnamed, _, hsent, v, rfl, _, ⟨w, rfl, hid⟩, _, hname, _, hmail, _, hprincipal, rfl, rfl, rfl, rfl⟩
    exact .object (named_iff.mp hnamed) (sent_eq_some_iff.mp hsent) hid hname hmail hprincipal
  · intro h
    cases h with
    | @object _ named w _ hnamed hsends hid hname hmail hprincipal =>
      exact ⟨named, named_iff.mpr hnamed, _, sent_eq_some_iff.mpr hsends, _, rfl, id, ⟨w, rfl, hid⟩, _, hname, _, hmail,
        _, hprincipal, rfl, rfl, rfl, rfl⟩

theorem Profile.ofOutline?_arr_eq_some_iff {first : Outline} {rest : List Outline} {p : Profile} :
    Profile.ofOutline? (.arr (first :: rest)) = some p ↔ Profiles (.arr (first :: rest)) p := by
  obtain ⟨id, displayName, mail, principalName⟩ := p
  have hrest : ∀ given, rest.mapM textOrNull = some given ↔ List.Forall₂ TextOrNull rest given := by
    intro given
    simp only [mapM_eq_some_iff, textOrNull_eq_some_iff]
  simp only [ofOutline?, Option.bind_eq_bind, Option.bind_eq_some_iff, said?_eq_some_iff]
  constructor
  · rintro ⟨_, ⟨w, rfl, hid⟩, h⟩
    split at h
    · cases h
    · next hlength =>
      obtain ⟨given, hgiven, hp⟩ := Option.bind_eq_some_iff.mp h
      obtain ⟨rfl, hname, hmail, hprincipal⟩ := mk.inj (Option.some.inj hp)
      have hall := (hrest given).mp hgiven
      have hfew : given.length ≤ 3 := hall.length_eq ▸ Nat.not_lt.mp hlength
      obtain ⟨missing, hmissing⟩ := given_append_replicate_iff.mpr ⟨hfew, hname, hmail, hprincipal⟩
      exact .array hid hall hmissing
  · intro h
    cases h with
    | @array w _ given missing _ hid hall hmissing =>
      obtain ⟨hfew, rfl, rfl, rfl⟩ := given_append_replicate_iff.mp ⟨missing, hmissing⟩
      have hlength : ¬3 < rest.length := Nat.not_lt.mpr (hall.length_eq ▸ hfew)
      refine ⟨id, ⟨w, rfl, hid⟩, ?_⟩
      rw [if_neg hlength, (hrest given).mpr hall]
      rfl

/-- Nothing but an object, or an array that is not empty, describes a user. -/
theorem Profile.ofOutline?_eq_some_iff {p : Profile} : Profile.ofOutline? v = some p ↔ Profiles v p := by
  cases v with
  | obj members => exact ofOutline?_obj_eq_some_iff
  | null | scalar | text =>
    refine iff_of_false (by simp [ofOutline?]) ?_
    rintro ⟨⟩
  | arr items =>
    cases items with
    | cons first rest => exact ofOutline?_arr_eq_some_iff
    | nil =>
      refine iff_of_false (by simp [ofOutline?]) ?_
      rintro ⟨⟩

/-- **A body describes a user if it is a document that does**, and not otherwise. -/
theorem Profile.ofBody?_eq_some_iff {body : List UInt8} {p : Profile} :
    Profile.ofBody? body = some p ↔ ∃ v, Document v (Text.ofBytes body) ∧ Profiles v p := by
  simp only [ofBody?, Option.bind_eq_some_iff, Json.outline?_eq_some_iff, ofOutline?_eq_some_iff]

end ReportServer.Directory.Graph
