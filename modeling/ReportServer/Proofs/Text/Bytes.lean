import ReportServer.Text.Utf8

/-!
# Characters and bytes

A character of ASCII is one byte, and all bytes of any other character lie beyond ASCII. So a text and its bytes
have the same ASCII in them, and whatever is said about the ASCII of the one can be said about the other.
-/

namespace ReportServer.Text

theorem utf8_eq_flatMap (s : String) : utf8 s = s.toList.flatMap String.utf8EncodeChar := by
  have hbytes : s.toByteArray = s.toList.utf8Encode := by
    rw [← String.toByteArray_ofList, String.ofList_toList]
  rw [utf8, String.toUTF8_eq_toByteArray, hbytes]
  exact List.toList_data_toByteArray

/-- Bytes that are the bytes of a text are read as that text. -/
theorem ofUtf8?_utf8 (s : String) : ofUtf8? (utf8 s) = some s := by
  have hbytes : (⟨(utf8 s).toArray⟩ : ByteArray) = s.toByteArray := rfl
  rw [ofUtf8?, hbytes, String.fromUTF8?, dif_pos s.isValidUTF8]
  rfl

/-- What is read as a text are the bytes of the text. -/
theorem ofUtf8?_eq_some_iff {bytes : List UInt8} {s : String} : ofUtf8? bytes = some s ↔ utf8 s = bytes := by
  constructor
  · intro h
    rw [ofUtf8?, String.fromUTF8?] at h
    split at h
    · injection h with h
      subst h
      rfl
    · exact absurd h (by simp)
  · rintro rfl
    exact ofUtf8?_utf8 s

theorem utf8EncodeChar_of_lt {c : Char} (h : c.toNat < 0x80) :
    String.utf8EncodeChar c = [UInt8.ofNat c.toNat] :=
  if_pos (Nat.le_of_lt_succ h)

theorem le_of_mem_utf8EncodeChar {c : Char} (h : 0x80 ≤ c.toNat) :
    ∀ b ∈ String.utf8EncodeChar c, 0x80 ≤ b.toNat := by
  have hone : ¬ c.val.toNat ≤ 0x7f := fun hle => absurd (Nat.le_trans h hle) (by decide)
  -- each byte is a remainder with a mark on it that is beyond ASCII
  have hbyte : ∀ {n m mark : Nat}, 0 < m → 0x80 ≤ mark → m + mark ≤ 0x100 →
      0x80 ≤ (UInt8.ofNat (n % m + mark)).toNat := by
    intro n m mark hm hmark h
    have hlt : n % m + mark < UInt8.size := Nat.lt_of_lt_of_le (Nat.add_lt_add_right (Nat.mod_lt n hm) mark) h
    rw [UInt8.toNat_ofNat_of_lt' hlt]
    omega
  simp only [String.utf8EncodeChar, if_neg hone]
  split
  · simp only [List.forall_mem_cons]
    exact ⟨hbyte (by decide) (by decide) (by decide), hbyte (by decide) (by decide) (by decide), by simp⟩
  · split
    · simp only [List.forall_mem_cons]
      exact ⟨hbyte (by decide) (by decide) (by decide), hbyte (by decide) (by decide) (by decide),
        hbyte (by decide) (by decide) (by decide), by simp⟩
    · simp only [List.forall_mem_cons]
      exact ⟨hbyte (by decide) (by decide) (by decide), hbyte (by decide) (by decide) (by decide),
        hbyte (by decide) (by decide) (by decide), hbyte (by decide) (by decide) (by decide), by simp⟩

/-- A text and its bytes have the same ASCII. -/
theorem exists_mem_utf8_iff {s : String} {p : Nat → Prop} (hp : ∀ n : Nat, p n → n < 0x80) :
    (∃ b ∈ utf8 s, p b.toNat) ↔ ∃ c ∈ s.toList, p c.toNat := by
  simp only [utf8_eq_flatMap, List.mem_flatMap]
  constructor
  · rintro ⟨b, ⟨c, hc, hb⟩, hpb⟩
    by_cases hascii : c.toNat < 0x80
    · rw [utf8EncodeChar_of_lt hascii, List.mem_singleton] at hb
      rw [hb, UInt8.toNat_ofNat_of_lt' (Nat.lt_trans hascii (by decide))] at hpb
      exact ⟨c, hc, hpb⟩
    · -- a byte of such a character is beyond ASCII itself
      have := le_of_mem_utf8EncodeChar (Nat.le_of_not_lt hascii) b hb
      have := hp b.toNat hpb
      omega
  · rintro ⟨c, hc, hpc⟩
    have hascii := hp c.toNat hpc
    refine ⟨UInt8.ofNat c.toNat, ⟨c, hc, ?_⟩, ?_⟩
    · rw [utf8EncodeChar_of_lt hascii]
      exact List.mem_singleton_self _
    · rwa [UInt8.toNat_ofNat_of_lt' (Nat.lt_trans hascii (by decide))]

end ReportServer.Text
