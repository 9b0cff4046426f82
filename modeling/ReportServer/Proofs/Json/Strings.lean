import ReportServer.Proofs.Json.Parts
import ReportServer.Proofs.Text.Bytes

/-!
# What strings say

A string is written with escapes for some of its characters: a character has an escape of its own, or it is given by
its number, or by two halves of it. A string says something if its bytes are UTF-8 and no half of a character stands
alone, and that is what is found out when somebody asks (`said?_eq_some_iff`).
-/

namespace ReportServer.Json

variable {s rest : List Char}

/-- `Unit a b c d n`: four hexadecimal digits and the number they give. -/
inductive Unit4 : Char → Char → Char → Char → Nat → Prop
  | mk {a b c d : Char} {i j k l : Nat} : Text.hexDigit? a = some i → Text.hexDigit? b = some j →
    Text.hexDigit? c = some k → Text.hexDigit? d = some l → Unit4 a b c d (((i * 16 + j) * 16 + k) * 16 + l)

theorem hex4_eq_some_iff {n : Nat} : hex4 s = some (n, rest) ↔
    ∃ a b c d, s = a :: b :: c :: d :: rest ∧ Unit4 a b c d n := by
  constructor
  · intro h
    unfold hex4 at h
    split at h
    · next a b c d after =>
      simp only [Option.bind_eq_bind, Option.bind_eq_some_iff, Option.pure_def, Option.some.injEq, Prod.mk.injEq] at h
      obtain ⟨i, hi, j, hj, k, hk, l, hl, rfl, rfl⟩ := h
      exact ⟨a, b, c, d, rfl, .mk hi hj hk hl⟩
    · cases h
  · rintro ⟨a, b, c, d, rfl, hi, hj, hk, hl⟩
    simp [hex4, hi, hj, hk, hl]

/-- The characters that have an escape of their own. -/
def shortMeanings : List (Char × Char) :=
  [('"', '"'), ('\\', '\\'), ('/', '/'), ('b', Char.ofNat 8), ('f', Char.ofNat 12), ('n', '\n'), ('r', '\r'),
    ('t', '\t')]

/-- `Escaped w x`: behind a backslash this stands for the character. -/
inductive Escaped : List Char → Char → Prop
  | short {e x : Char} : (e, x) ∈ shortMeanings → Escaped [e] x
  | unit {a b c d : Char} {n : Nat} : Unit4 a b c d n → n < 0xD800 ∨ 0xE000 ≤ n → Escaped ['u', a, b, c, d] (Char.ofNat n)
  | halves {a b c d a' b' c' d' : Char} {hi lo : Nat} : Unit4 a b c d hi → 0xD800 ≤ hi → hi < 0xDC00 →
    Unit4 a' b' c' d' lo → 0xDC00 ≤ lo → lo < 0xE000 →
    Escaped ['u', a, b, c, d, '\\', 'u', a', b', c', d']
      (Char.ofNat (0x10000 + (hi - 0xD800) * 0x400 + (lo - 0xDC00)))

theorem unicodeEscape_eq_some_iff {x : Char} : unicodeEscape s = some (x, rest) ↔
    ∃ w, s = w ++ rest ∧ Escaped ('u' :: w) x := by
  constructor
  · intro h
    simp only [unicodeEscape, Option.bind_eq_bind, Option.bind_eq_some_iff] at h
    obtain ⟨⟨hi, after⟩, hhi, hchar⟩ := h
    obtain ⟨a, b, c, d, rfl, hunit⟩ := hex4_eq_some_iff.mp hhi
    dsimp only at hchar
    split at hchar
    · cases hchar
    · next hlow =>
      split at hchar
      · next hhigh =>
        split at hchar
        · next later =>
          obtain ⟨⟨lo, last⟩, hlo, hpair⟩ := Option.bind_eq_some_iff.mp hchar
          obtain ⟨a', b', c', d', rfl, hunit'⟩ := hex4_eq_some_iff.mp hlo
          dsimp only at hpair
          split at hpair
          · next hin =>
            obtain ⟨rfl, rfl⟩ := Prod.mk.inj (Option.some.inj hpair)
            exact ⟨[a, b, c, d, '\\', 'u', a', b', c', d'], rfl, .halves hunit hhigh.1 hhigh.2 hunit' hin.1 hin.2⟩
          · cases hpair
        · cases hchar
      · next hhigh =>
        obtain ⟨rfl, rfl⟩ := Prod.mk.inj (Option.some.inj hchar)
        exact ⟨[a, b, c, d], rfl, .unit hunit (by omega)⟩
  · rintro ⟨w, rfl, hw⟩
    cases hw with
    | @unit a b c d n hunit hn =>
      have hhex : hex4 (a :: b :: c :: d :: rest) = some (n, rest) := hex4_eq_some_iff.mpr ⟨a, b, c, d, rfl, hunit⟩
      have hlow : ¬(0xDC00 ≤ n ∧ n < 0xE000) := by omega
      have hhigh : ¬(0xD800 ≤ n ∧ n < 0xDC00) := by omega
      simp [unicodeEscape, hhex, hlow, hhigh]
    | @halves a b c d a' b' c' d' hi lo hunit hge hlt hunit' hge' hlt' =>
      have hhex : hex4 (a' :: b' :: c' :: d' :: rest) = some (lo, rest) :=
        hex4_eq_some_iff.mpr ⟨a', b', c', d', rfl, hunit'⟩
      have hhex' : hex4 (a :: b :: c :: d :: '\\' :: 'u' :: a' :: b' :: c' :: d' :: rest)
          = some (hi, '\\' :: 'u' :: a' :: b' :: c' :: d' :: rest) := hex4_eq_some_iff.mpr ⟨a, b, c, d, rfl, hunit⟩
      have hlow : ¬(0xDC00 ≤ hi ∧ hi < 0xE000) := by omega
      simp [unicodeEscape, hhex, hhex', hlow, hge, hlt, hge', hlt']
    | short h => exact absurd h (by simp [shortMeanings])

theorem escape_eq_some_iff {x : Char} : escape s = some (x, rest) ↔ ∃ w, s = w ++ rest ∧ Escaped w x := by
  constructor
  · intro h
    unfold escape at h
    split at h
    case h_9 after =>
      obtain ⟨w, rfl, hw⟩ := unicodeEscape_eq_some_iff.mp h
      exact ⟨'u' :: w, rfl, hw⟩
    case h_10 => cases h
    all_goals
      obtain ⟨rfl, rfl⟩ := Prod.mk.inj (Option.some.inj h)
      exact ⟨_, rfl, .short (by simp [shortMeanings])⟩
  · rintro ⟨w, rfl, hw⟩
    cases hw with
    | short h =>
      simp only [shortMeanings, List.mem_cons, Prod.mk.injEq, List.not_mem_nil, or_false] at h
      rcases h with ⟨rfl, rfl⟩ | ⟨rfl, rfl⟩ | ⟨rfl, rfl⟩ | ⟨rfl, rfl⟩ | ⟨rfl, rfl⟩ | ⟨rfl, rfl⟩ | ⟨rfl, rfl⟩ | ⟨rfl, rfl⟩ <;>
        rfl
    | unit hunit hn => exact unicodeEscape_eq_some_iff.mpr ⟨_, rfl, .unit hunit hn⟩
    | halves hunit hge hlt hunit' hge' hlt' =>
      exact unicodeEscape_eq_some_iff.mpr ⟨_, rfl, .halves hunit hge hlt hunit' hge' hlt'⟩

/-- `Says w t`: written like this between its quotes a string says this text. -/
inductive Says : List Char → List Char → Prop
  | nil : Says [] []
  | plain {c : Char} {w t : List Char} : c ≠ '"' → c ≠ '\\' → 0x20 ≤ c.toNat → Says w t → Says (c :: w) (c :: t)
  | escaped {e w t : List Char} {x : Char} : Escaped e x → Says w t → Says ('\\' :: (e ++ w)) (x :: t)

/-- One round of the loop over the characters of a string. -/
theorem taken_stringBody (found : List Char) (c : Char) (s : List Char) : taken (stringBody found (c :: s)) =
    if c = '"' then some (String.ofList found.reverse, s)
    else if c = '\\' then (escape s).bind fun r => taken (stringBody (r.1 :: found) r.2)
    else if c.toNat < 0x20 then none
    else taken (stringBody (c :: found) s) := by
  rw [stringBody]
  split
  · rfl
  · split
    · split
      · next h => simp [h, taken]
      · next h => exact (taken_widen _ _).trans (by rw [h]; rfl)
    · split
      · rfl
      · exact taken_widen _ _

theorem stringBody_sound {found : List Char} {said : String} (h : taken (stringBody found s) = some (said, rest)) :
    ∃ w t, s = w ++ '"' :: rest ∧ Says w t ∧ said = String.ofList (found.reverse ++ t) := by
  induction hn : s.length using Nat.strong_induction_on generalizing s found with
  | _ n ih =>
    cases s with
    | nil => simp [stringBody, taken] at h
    | cons c s =>
      rw [taken_stringBody] at h
      split at h
      · next hquote =>
        obtain ⟨rfl, rfl⟩ := Prod.mk.inj (Option.some.inj h)
        exact ⟨[], [], by rw [hquote, List.nil_append], .nil, by rw [List.append_nil]⟩
      · next hquote =>
        split at h
        · next hslash =>
          obtain ⟨⟨x, behind⟩, hescape, hbehind⟩ := Option.bind_eq_some_iff.mp h
          obtain ⟨e, rfl, he⟩ := escape_eq_some_iff.mp hescape
          have hlt : behind.length < n := by
            rw [← hn]
            simp only [List.length_cons, List.length_append]
            omega
          obtain ⟨w, t, rfl, hw, hsaid⟩ := ih _ hlt hbehind rfl
          exact ⟨'\\' :: (e ++ w), x :: t, by simp [hslash], .escaped he hw, by simpa using hsaid⟩
        · next hslash =>
          split at h
          · cases h
          · next hcontrol =>
            have hlt : s.length < n := by
              rw [← hn]
              exact Nat.lt_succ_self _
            obtain ⟨w, t, rfl, hw, hsaid⟩ := ih _ hlt h rfl
            exact ⟨c :: w, c :: t, rfl, .plain hquote hslash (Nat.not_lt.mp hcontrol) hw, by simpa using hsaid⟩

theorem stringBody_complete {w t : List Char} (h : Says w t) (found rest : List Char) :
    taken (stringBody found (w ++ '"' :: rest)) = some (String.ofList (found.reverse ++ t), rest) := by
  induction h generalizing found with
  | nil => rw [List.nil_append, taken_stringBody, if_pos rfl, List.append_nil]
  | @plain c w t hquote hslash hcontrol _ ih =>
    rw [List.cons_append, taken_stringBody, if_neg hquote, if_neg hslash, if_neg (Nat.not_lt.mpr hcontrol), ih]
    simp
  | @escaped e w t x he _ ih =>
    have hescape : escape (e ++ (w ++ '"' :: rest)) = some (x, w ++ '"' :: rest) :=
      escape_eq_some_iff.mpr ⟨e, rfl, he⟩
    rw [List.cons_append, List.append_assoc, taken_stringBody, if_neg (by decide), if_pos rfl, hescape, Option.bind_some,
      ih]
    simp

/-- `Means w said`: the bytes between the quotes are UTF-8, and they say this once escapes are replaced. -/
def Means (w : List Char) (said : String) : Prop :=
  ∃ text : String, Text.utf8 text = Text.toBytes w ∧ Says text.toList said.toList

theorem said?_eq_some_iff {w : List Char} {said : String} : said? w = some said ↔ Means w said := by
  simp only [said?, Means, Option.bind_eq_bind, Option.bind_eq_some_iff, Text.ofUtf8?_eq_some_iff]
  refine exists_congr fun text => and_congr_right fun _ => ?_
  constructor
  · rintro ⟨⟨⟨said', rest⟩, hlt⟩, hread, hwhole⟩
    obtain ⟨hrest, rfl⟩ : rest = [] ∧ said' = said := by simpa using hwhole
    have htaken : taken (stringBody [] (text.toList ++ ['"'])) = some (said', rest) := by
      rw [hread]
      rfl
    obtain ⟨w, t, hw, hsays, hsaid⟩ := stringBody_sound htaken
    rw [hrest, List.append_left_inj] at hw
    rw [hw, hsaid]
    simpa using hsays
  · intro hsays
    have htaken := stringBody_complete hsays [] []
    obtain ⟨⟨r, hlt⟩, hr, rfl⟩ := Option.map_eq_some_iff.mp htaken
    exact ⟨_, hr, by simp⟩

end ReportServer.Json
