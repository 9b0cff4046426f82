import ReportServer.Proofs.Api.Asking

/-!
# What is said of a group name

What is wrong with a group name is told by a code and a sentence, and the sentence speaks of characters. The check
counts bytes. That makes no difference to the names that pass, as these are ASCII. But any other character is more than
one byte, so a name that holds some may be called too long although it has no more than a hundred characters.
-/

namespace ReportServer.Name

open Api (IsGroupName)

/-- What is said of a group name: nothing, or what is wrong with it. -/
def groupVerdict (name : String) : Except Fault Unit := (checkGroupName name).mapError GroupNameError.fault

/-- `ByCharacters name v`: this is to be said of a name whose length is counted in characters. -/
inductive ByCharacters (name : String) : Except Fault Unit → Prop
  | good : IsGroupName name → ByCharacters name (.ok ())
  | long : 100 < name.toList.length → ByCharacters name
    (.error ⟨"group_name_length", some "Group name must be at most 100 characters"⟩)
  | malformed : name.toList.length ≤ 100 → ¬IsGroupName name → ByCharacters name
    (.error ⟨"group_name_format",
      some "Group name must start with a letter or digit and contain only letters, digits, spaces, '.', '_' or '-'"⟩)

variable {name : String}

theorem length_le_utf8Len (s : List Char) : s.length ≤ String.utf8Len s := by
  induction s with
  | nil => exact Nat.le_refl 0
  | cons c s ih =>
    have := c.utf8Size_pos
    rw [List.length_cons, String.utf8Len_cons]
    omega

/-- Every character is at least one byte. -/
theorem length_le_utf8ByteSize (name : String) : name.toList.length ≤ name.utf8ByteSize :=
  String.utf8Len_toList name ▸ length_le_utf8Len name.toList

theorem groupVerdict_eq_ok_iff : groupVerdict name = .ok () ↔ IsGroupName name := by
  rw [← Api.checkGroupName_eq_ok, groupVerdict]
  cases checkGroupName name <;> simp [Except.mapError]

theorem checkGroupName_eq_tooLong_iff : checkGroupName name = .error .tooLong ↔ 100 < name.utf8ByteSize := by
  unfold checkGroupName maxGroupNameLength
  split
  · next hlong => simp [hlong]
  · next hlong => split <;> simp [hlong]

theorem groupVerdict_eq_error_iff {e : GroupNameError} :
    groupVerdict name = .error e.fault ↔ checkGroupName name = .error e := by
  -- the two faults differ, so the fault tells which of the two it was
  have hdiffer : GroupNameError.tooLong.fault ≠ GroupNameError.malformed.fault := by decide
  rw [groupVerdict]
  cases checkGroupName name with
  | ok => simp [Except.mapError]
  | error e' => cases e <;> cases e' <;> simp [Except.mapError, hdiffer, hdiffer.symm]

/-- A name that is not too long in bytes is called what it is. -/
theorem checkGroupName_eq_malformed_iff :
    checkGroupName name = .error .malformed ↔ name.utf8ByteSize ≤ 100 ∧ ¬IsGroupName name := by
  rw [← Api.checkGroupName_eq_ok, ← Nat.not_lt, ← checkGroupName_eq_tooLong_iff]
  cases checkGroupName name with
  | ok => simp
  | error e => cases e <;> simp

/--
**What is said of a name**, and when it is the right thing to say: always, but for the names that are long in bytes and
not in characters. The names that nothing is said of are the group names.
-/
theorem group_judged (name : String) :
    (groupVerdict name = .ok () ↔ IsGroupName name)
      ∧ (groupVerdict name = .error GroupNameError.tooLong.fault ↔ 100 < name.utf8ByteSize)
      ∧ (groupVerdict name = .error GroupNameError.malformed.fault ↔ name.utf8ByteSize ≤ 100 ∧ ¬IsGroupName name)
      ∧ (ByCharacters name (groupVerdict name) ↔ name.utf8ByteSize ≤ 100 ∨ 100 < name.toList.length) := by
  have hok : groupVerdict name = .ok () ↔ IsGroupName name := groupVerdict_eq_ok_iff
  have hlong : groupVerdict name = .error GroupNameError.tooLong.fault ↔ 100 < name.utf8ByteSize :=
    groupVerdict_eq_error_iff.trans checkGroupName_eq_tooLong_iff
  have hmalformed : groupVerdict name = .error GroupNameError.malformed.fault
      ↔ name.utf8ByteSize ≤ 100 ∧ ¬IsGroupName name :=
    groupVerdict_eq_error_iff.trans checkGroupName_eq_malformed_iff
  refine ⟨hok, hlong, hmalformed, ?_⟩
  have hle := length_le_utf8ByteSize name
  rcases Nat.lt_or_ge 100 name.utf8ByteSize with hbytes | hbytes
  · -- the name is called too long, and that is right if it is too long in characters as well
    rw [hlong.mpr hbytes]
    constructor
    · intro h
      generalize hv : (Except.error GroupNameError.tooLong.fault : Except Fault Unit) = v at h
      cases h with
      | good => cases hv
      | long hchars => exact .inr hchars
      | malformed => simp [GroupNameError.fault] at hv
    · rintro (h | hchars)
      · omega
      · exact .long hchars
  · refine iff_of_true ?_ (.inl hbytes)
    by_cases hname : IsGroupName name
    · rw [hok.mpr hname]
      exact .good hname
    · rw [hmalformed.mpr ⟨hbytes, hname⟩]
      exact .malformed (by omega) hname

/-- Fifty-one letters of two bytes each are called too long, and a name may have a hundred characters. -/
theorem not_byCharacters : ¬∀ name : String, ByCharacters name (groupVerdict name) := by
  intro h
  have hboth := (group_judged (String.ofList (List.replicate 51 'é'))).2.2.2.mp (h _)
  exact absurd hboth (by decide +kernel)

end ReportServer.Name
