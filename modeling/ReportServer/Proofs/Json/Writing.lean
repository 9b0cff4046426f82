import Mathlib.Data.List.Forall2
import ReportServer.Proofs.Json.Documents
import ReportServer.Proofs.Json.Strings

/-!
# What is written is read

A text is written between quotes with escapes for some of its characters, and it leaves the server as bytes. What is
written says the text it was written for, and an object of texts is written as a document of their outlines
(`document_obj_texts`). Nothing has to be known of the texts, not even that they are ASCII: only a byte of ASCII could
be taken for a quote or an escape, and no byte of another character is one.
-/

namespace ReportServer.Json

variable {s t w : List Char} {c : Char}

/-! ## Bytes -/

/-- Characters as they are sent: each byte is taken for the character whose number it is. -/
def sent (s : List Char) : List Char := s.flatMap fun c => Text.ofBytes (String.utf8EncodeChar c)

theorem ofBytes_utf8 (s : String) : Text.ofBytes (Text.utf8 s) = sent s.toList := by
  rw [Text.utf8_eq_flatMap, Text.ofBytes, List.map_flatMap]
  rfl

theorem sent_cons (c : Char) (s : List Char) : sent (c :: s) = Text.ofBytes (String.utf8EncodeChar c) ++ sent s :=
  List.flatMap_cons

theorem sent_append (s t : List Char) : sent (s ++ t) = sent s ++ sent t := List.flatMap_append

/-- The character whose number is a byte. -/
theorem toNat_ofNat_byte (b : UInt8) : (Char.ofNat b.toNat).toNat = b.toNat := by
  rw [Char.ofNat, dif_pos (.inl (Nat.lt_trans b.toNat_lt (by decide)))]
  rfl

theorem toBytes_ofBytes (bytes : List UInt8) : Text.toBytes (Text.ofBytes bytes) = bytes := by
  have hbyte : ∀ b : UInt8, UInt8.ofNat (Char.ofNat b.toNat).toNat = b := by
    intro b
    rw [toNat_ofNat_byte]
    exact UInt8.ofNat_toNat
  rw [Text.toBytes, Text.ofBytes, List.map_map]
  exact List.map_id'' hbyte bytes

/-- A character of ASCII is sent as it is, -/
theorem ofBytes_utf8EncodeChar (h : c.toNat < 0x80) : Text.ofBytes (String.utf8EncodeChar c) = [c] := by
  rw [Text.utf8EncodeChar_of_lt h]
  show [Char.ofNat (UInt8.ofNat c.toNat).toNat] = [c]
  rw [UInt8.toNat_ofNat_of_lt' (Nat.lt_trans h (by decide)), Char.ofNat_toNat]

theorem sent_cons_of_lt (h : c.toNat < 0x80) (s : List Char) : sent (c :: s) = c :: sent s := by
  rw [sent_cons, ofBytes_utf8EncodeChar h, List.singleton_append]

/-- and what is sent of another one is no ASCII. -/
theorem le_of_mem_ofBytes (h : 0x80 ≤ c.toNat) {x : Char} (hx : x ∈ Text.ofBytes (String.utf8EncodeChar c)) :
    0x80 ≤ x.toNat := by
  obtain ⟨b, hb, rfl⟩ := List.mem_map.mp hx
  rw [toNat_ofNat_byte]
  exact Text.le_of_mem_utf8EncodeChar h b hb

/-! ## Escapes -/

/-- What a character is written as in a string: itself, or an escape that stands for it. -/
inductive WrittenAs (c : Char) : List Char → Prop
  | plain : c ≠ '"' → c ≠ '\\' → 0x20 ≤ c.toNat → WrittenAs c [c]
  | short {e : Char} : (e, c) ∈ shortMeanings → WrittenAs c ['\\', e]
  | unit {a b x y : Char} : Unit4 a b x y c.toNat → c.toNat < 0xD800 → WrittenAs c ['\\', 'u', a, b, x, y]

theorem hexDigit?_hexDigitChar (n : Nat) : Text.hexDigit? (hexDigitChar n) = some (n % 16) := by
  have hdigit : ∀ m, m < 16 → Text.hexDigit? (Nat.digitChar m) = some m := by decide
  exact hdigit (n % 16) (Nat.mod_lt n (by decide))

theorem writtenAs_escapeChar (c : Char) : WrittenAs c (escapeChar c) := by
  unfold escapeChar
  split_ifs with hquote hslash hline hreturn htab hback hfeed hcontrol
  · exact .short (by simp [hquote, shortMeanings])
  · exact .short (by simp [hslash, shortMeanings])
  · exact .short (by simp [hline, shortMeanings])
  · exact .short (by simp [hreturn, shortMeanings])
  · exact .short (by simp [htab, shortMeanings])
  · have hc : c = Char.ofNat 8 := by rw [← hback, Char.ofNat_toNat]
    exact .short (by simp [hc, shortMeanings])
  · have hc : c = Char.ofNat 12 := by rw [← hfeed, Char.ofNat_toNat]
    exact .short (by simp [hc, shortMeanings])
  · have hzero : Text.hexDigit? '0' = some 0 := by decide
    have hunit := Unit4.mk hzero hzero (hexDigit?_hexDigitChar (c.toNat / 16)) (hexDigit?_hexDigitChar c.toNat)
    have hnumber : ((0 * 16 + 0) * 16 + c.toNat / 16 % 16) * 16 + c.toNat % 16 = c.toNat := by omega
    rw [hnumber] at hunit
    exact .unit hunit (by omega)
  · exact .plain hquote hslash (Nat.not_lt.mp hcontrol)

/-! ## Strings -/

theorem WrittenAs.says_append (h : WrittenAs c w) (hs : Says s t) : Says (w ++ s) (c :: t) := by
  cases h with
  | plain hquote hslash hcontrol => exact .plain hquote hslash hcontrol hs
  | short he => exact .escaped (.short he) hs
  | unit hunit hlow =>
    have hescaped := Escaped.unit hunit (.inl hlow)
    rw [Char.ofNat_toNat] at hescaped
    exact .escaped hescaped hs

/-- **What is written says the text.** -/
theorem says_escaped (s : List Char) : Says (s.flatMap escapeChar) s := by
  induction s with
  | nil => exact .nil
  | cons c s ih =>
    rw [List.flatMap_cons]
    exact (writtenAs_escapeChar c).says_append ih

theorem Unit4.isHexDigit {a b x y : Char} {n : Nat} (h : Unit4 a b x y n) : isHexDigit a = true
    ∧ isHexDigit b = true ∧ isHexDigit x = true ∧ isHexDigit y = true := by
  cases h with
  | mk ha hb hx hy => simp [Json.isHexDigit, ha, hb, hx, hy]

/-- A digit is ASCII. -/
theorem lt_of_isHexDigit (h : isHexDigit c = true) : c.toNat < 0x80 := by
  have hle : ∀ {a b : Char}, a ≤ b ↔ a.toNat ≤ b.toNat := UInt32.le_iff_toNat_le
  unfold isHexDigit Text.hexDigit? at h
  split_ifs at h with hdigit hlower hupper
  · have : c.toNat ≤ 57 := (Char.isDigit_iff_toNat.mp hdigit).2
    omega
  · have : c.toNat ≤ 102 := hle.mp hlower.2
    omega
  · have : c.toNat ≤ 70 := hle.mp hupper.2
    omega
  · exact absurd h (by simp)

/-- Characters that are no ASCII can stand between quotes. -/
theorem inside_append_of_le (h : ∀ x ∈ w, 0x80 ≤ x.toNat) (hs : Inside s) : Inside (w ++ s) := by
  induction w with
  | nil => exact hs
  | cons x w ih =>
    obtain ⟨hx, hw⟩ := List.forall_mem_cons.mp h
    refine .plain ?_ ?_ (Nat.le_trans (by decide) hx) (ih hw)
    · rintro rfl
      exact absurd hx (by decide)
    · rintro rfl
      exact absurd hx (by decide)

/-- What a character is written as can stand between quotes when it is sent. -/
theorem WrittenAs.inside (h : WrittenAs c w) (hs : Inside s) : Inside (sent w ++ s) := by
  cases h with
  | plain hquote hslash hcontrol =>
    rcases Nat.lt_or_ge c.toNat 0x80 with hascii | hother
    · rw [sent_cons_of_lt hascii]
      exact .plain hquote hslash hcontrol hs
    · rw [sent_cons]
      exact inside_append_of_le (fun x hx => le_of_mem_ofBytes hother (by simpa [sent] using hx)) hs
  | @short e he =>
    have hshort : e ∈ shortEscapes ∧ e.toNat < 0x80 := by
      simp only [shortMeanings, List.mem_cons, Prod.mk.injEq, List.not_mem_nil, or_false] at he
      rcases he with ⟨rfl, -⟩ | ⟨rfl, -⟩ | ⟨rfl, -⟩ | ⟨rfl, -⟩ | ⟨rfl, -⟩ | ⟨rfl, -⟩ | ⟨rfl, -⟩ | ⟨rfl, -⟩ <;> decide
    rw [sent_cons_of_lt (by decide), sent_cons_of_lt hshort.2]
    exact .short hshort.1 hs
  | unit hunit =>
    obtain ⟨ha, hb, hx, hy⟩ := hunit.isHexDigit
    rw [sent_cons_of_lt (by decide), sent_cons_of_lt (by decide), sent_cons_of_lt (lt_of_isHexDigit ha),
      sent_cons_of_lt (lt_of_isHexDigit hb), sent_cons_of_lt (lt_of_isHexDigit hx),
      sent_cons_of_lt (lt_of_isHexDigit hy)]
    exact .unit ha hb hx hy hs

/-- What stands between the quotes of a text as it is sent. -/
def sentText (s : String) : List Char := sent (s.toList.flatMap escapeChar)

theorem inside_sentText (s : String) : Inside (sentText s) := by
  have hinside : ∀ cs : List Char, Inside (sent (cs.flatMap escapeChar)) := by
    intro cs
    induction cs with
    | nil => exact .nil
    | cons c cs ih =>
      rw [List.flatMap_cons, sent_append]
      exact (writtenAs_escapeChar c).inside ih
  exact hinside s.toList

/-- **What is sent of a text means the text.** -/
theorem means_sentText (s : String) : Means (sentText s) s := by
  refine ⟨String.ofList (s.toList.flatMap escapeChar), ?_, ?_⟩
  · have hbytes := ofBytes_utf8 (String.ofList (s.toList.flatMap escapeChar))
    rw [String.toList_ofList] at hbytes
    rw [sentText, ← hbytes, toBytes_ofBytes]
  · rw [String.toList_ofList]
    exact says_escaped s.toList

theorem sent_stringChars (s : String) : sent (stringChars s) = '"' :: (sentText s ++ ['"']) := by
  rw [stringChars, List.cons_append, sent_cons_of_lt (by decide), sent_append, sent_cons_of_lt (by decide)]
  rfl

/-! ## Objects of texts -/

theorem sent_commaSeparated (ws : List (List Char)) : sent (commaSeparated ws) = commaSeparated (ws.map sent) := by
  induction ws with
  | nil => rfl
  | cons w ws ih =>
    cases ws with
    | nil => rfl
    | cons w' ws =>
      rw [commaSeparated, sent_append, sent_cons_of_lt (by decide), ih]
      · rfl
      · simp

/-- Items with a comma between them. -/
theorem listed_commaSeparated {α : Type} {R : α → List Char → Prop} {as : List α} {ws : List (List Char)}
    (h : List.Forall₂ R as ws) (hne : as ≠ []) : Listed R as (commaSeparated ws) := by
  have hnone : Gap [] := by simp [Gap]
  induction h with
  | nil => exact absurd rfl hne
  | @cons a w as ws ha hrest ih =>
    cases hrest with
    | nil => simpa [commaSeparated] using Listed.one hnone ha hnone
    | cons hb hrest' =>
      have hlisted := Listed.cons hnone ha hnone (ih (by simp))
      rw [commaSeparated]
      · simpa using hlisted
      · simp

/-- The outline of an object of texts. -/
def textsOutline (members : List (String × String)) : Outline :=
  .obj (members.map fun m => (sentText m.1, .text (sentText m.2)))

theorem sent_memberTexts (members : List (String × String)) :
    (memberTexts (members.map fun m => (m.1, Value.str m.2))).map sent
      = members.map fun m => '"' :: (sentText m.1 ++ '"' :: ([] ++ ':' :: ([] ++ '"' :: (sentText m.2 ++ ['"'])))) := by
  induction members with
  | nil => rfl
  | cons m members ih =>
    rw [List.map_cons, memberTexts, List.map_cons, List.map_cons, ih, sent_append, sent_cons_of_lt (by decide),
      Value.chars, sent_stringChars, sent_stringChars]
    simp

/-- **An object of texts is written as a document** of their outlines. -/
theorem document_obj_texts (members : List (String × String)) : Document (textsOutline members)
    (Text.ofBytes (Text.utf8 (Value.obj (members.map fun m => (m.1, .str m.2))).compact)) := by
  have hnone : Gap [] := by simp [Gap]
  have hchars : Text.ofBytes (Text.utf8 (Value.obj (members.map fun m => (m.1, .str m.2))).compact)
      = '\x7b' :: (commaSeparated ((memberTexts (members.map fun m => (m.1, Value.str m.2))).map sent) ++ ['\x7d']) := by
    rw [ofBytes_utf8, Value.compact, String.toList_ofList, Value.chars, List.cons_append,
      sent_cons_of_lt (by decide), sent_append, sent_commaSeparated, sent_cons_of_lt (by decide)]
    rfl
  have hmembers : List.Forall₂ (Member Writes) (members.map fun m => (sentText m.1, Outline.text (sentText m.2)))
      (members.map fun m => '"' :: (sentText m.1 ++ '"' :: ([] ++ ':' :: ([] ++ '"' :: (sentText m.2 ++ ['"']))))) := by
    rw [List.forall₂_map_left_iff, List.forall₂_map_right_iff]
    exact List.forall₂_same.mpr fun m _ =>
      .mk (inside_sentText m.1) hnone hnone (.text (inside_sentText m.2))
  have hbracketed : Bracketed (Member Writes) (members.map fun m => (sentText m.1, Outline.text (sentText m.2)))
      (commaSeparated ((memberTexts (members.map fun m => (m.1, Value.str m.2))).map sent)) := by
    rw [sent_memberTexts]
    cases members with
    | nil => exact .none hnone
    | cons m members => exact .some (listed_commaSeparated hmembers (by simp))
  rw [hchars, textsOutline]
  simpa using Document.mk hnone (.obj hbracketed) hnone

end ReportServer.Json
