import ReportServer.Proofs.Decimal.Rounding
import ReportServer.Proofs.Settings.Layering
import ReportServer.Proofs.Text.Lowercase
import ReportServer.Proofs.Traversal

/-!
# What a value is read as

A setting is a text, a number, a truth value or a list of texts, and the value a source has for it need not be of that
type: variables are always texts. What each value is read as is said here type by type, without the readers, and a
`Kind` is a reader together with the proof that it reads just that.
-/

namespace ReportServer.Settings

open Decimal (Binary64)
open Json (Value)

variable {origin : String} {v : Value} {s : String} {n : Nat}

/-! ## What it is read as -/

/-- Integers that documents can hold. Others are floating point numbers there. -/
def Fits (i : Int) : Prop := -2 ^ 63 ≤ i ∧ i < 2 ^ 63

/-- `AsText v s`: as a text the value is `s`. -/
inductive AsText : Value → String → Prop
  | text {s : String} : AsText (.str s) s
  | yes : AsText (.bool true) "true"
  | no : AsText (.bool false) "false"
  | int {i : Int} : Fits i → AsText (.int i) (toString i)
  | wide {i : Int} : ¬Fits i → AsText (.int i) (Binary64.ofInt i).text
  | float {x : Binary64} : AsText (.float x) x.text

/-- `Rounded x n`: `n` is the natural number nearest to `x`, the larger of two, as far as 64 bits hold it. -/
inductive Rounded (x : Binary64) : Nat → Prop
  | finite : x.isFinite = true → Rounded x (min ⌊x.value + 1 / 2⌋₊ (2 ^ 64 - 1))
  | infinite : x.isFinite = false → x.isNaN = false → x.isNegative = false → Rounded x (2 ^ 64 - 1)
  | none : x.isFinite = false → (x.isNaN = true ∨ x.isNegative = true) → Rounded x 0

/-- `InDigits s n`: the text is the number in decimal digits. A plus may stand in front of them. -/
def InDigits (s : String) (n : Nat) : Prop :=
  ∃ sign ds : List Char, s.toList = sign ++ ds ∧ sign ∈ [[], ['+']] ∧ ds ≠ [] ∧ (∀ c ∈ ds, c.isDigit = true) ∧
    n = Nat.ofDigitChars 10 ds 0

/-- `AsNumber v n`: as a number the value is `n`. -/
inductive AsNumber : Value → Nat → Prop
  | int {n : Nat} : Fits n → AsNumber (.int n) n
  | wide {i : Int} {n : Nat} : ¬Fits i → Rounded (.ofInt i) n → AsNumber (.int i) n
  | float {x : Binary64} {n : Nat} : Rounded x n → AsNumber (.float x) n
  | one : AsNumber (.bool true) 1
  | zero : AsNumber (.bool false) 0
  | trueWord {s : String} : Text.lowercase s ∈ ["true", "on", "yes"] → AsNumber (.str s) 1
  | falseWord {s : String} : Text.lowercase s ∈ ["false", "off", "no"] → AsNumber (.str s) 0
  | digits {s : String} {n : Nat} : InDigits s n → n < 2 ^ 64 → AsNumber (.str s) n

/-- `AsTruth v b`: as a truth value the value is `b`. -/
inductive AsTruth : Value → Bool → Prop
  | bool {b : Bool} : AsTruth (.bool b) b
  | int {i : Int} : AsTruth (.int i) (decide (i ≠ 0))
  | float {x : Binary64} : AsTruth (.float x) (!x.isZero)
  | trueWord {s : String} : Text.lowercase s ∈ ["1", "true", "on", "yes"] → AsTruth (.str s) true
  | falseWord {s : String} : Text.lowercase s ∈ ["0", "false", "off", "no"] → AsTruth (.str s) false

/-- `AsOptional v o`: null is no text, and what is a text is that text. -/
inductive AsOptional : Value → Option String → Prop
  | none : AsOptional .null none
  | some {v : Value} {s : String} : AsText v s → AsOptional v (some s)

/-- `AsTexts v ss`: the value is a list whose items are the texts. -/
inductive AsTexts : Value → List String → Prop
  | list {vs : List Value} {ss : List String} : List.Forall₂ AsText vs ss → AsTexts (.arr vs) ss

/-! ## Integers -/

theorem fits_iff {i : Int} : Fits i ↔ Int64.minValue.toInt ≤ i ∧ i ≤ Int64.maxValue.toInt := by
  have hmin : Int64.minValue.toInt = -2 ^ 63 := rfl
  have hmax : Int64.maxValue.toInt = 2 ^ 63 - 1 := rfl
  rw [Fits, hmin, hmax]
  omega

/-! ## Words -/

/-- No word means both. -/
theorem false_of_words {word : String} (htrue : word ∈ ["1", "true", "on", "yes"])
    (hfalse : word ∈ ["0", "false", "off", "no"]) : False := by
  simp only [List.mem_cons, List.not_mem_nil, or_false] at htrue
  rcases htrue with rfl | rfl | rfl | rfl <;> exact absurd hfalse (by decide)

/-- A text with digits in it is no word. -/
theorem InDigits.lowercase_notMem (h : InDigits s n) {words : List String}
    (hwords : (words.all fun w => w.toList.all fun c => c.isLower && c != 'k') = true) : Text.lowercase s ∉ words := by
  intro hw
  have hplain : Text.IsPlainWord (Text.lowercase s).toList := fun c hc => by
    simpa using List.all_eq_true.mp (List.all_eq_true.mp hwords _ hw) c hc
  obtain ⟨sign, ds, hs, -, hne, hall, -⟩ := h
  obtain ⟨c, ds, rfl⟩ := List.exists_cons_of_ne_nil hne
  have hmem : c.toLower ∈ (Text.lowercase s).toList := by
    rw [← (Text.lowercase_eq_iff hplain).mp rfl]
    exact List.mem_map_of_mem (by simp [hs])
  have hletter := Text.toNat_of_isLower_toLower (hplain _ hmem).1
  have hnumber : c.toNat ≤ 57 := (Char.isDigit_iff_toNat.mp (hall c List.mem_cons_self)).2
  omega

namespace Tree

theorem ofValue_of_fits {i : Int} (h : Fits i) : ofValue origin (.int i) = .leaf (some origin) (.int i) := by
  show (ofJson origin (.int i)).sorted = _
  rw [ofJson, if_pos (fits_iff.mp h), sorted]

theorem ofValue_of_not_fits {i : Int} (h : ¬Fits i) :
    ofValue origin (.int i) = .leaf (some origin) (.float (.ofInt i)) := by
  show (ofJson origin (.int i)).sorted = _
  rw [ofJson, if_neg (mt fits_iff.mpr h), sorted]

/-! ## Texts -/

theorem string_eq_ok_iff : (ofValue origin v).string = .ok s ↔ AsText v s := by
  constructor
  · intro h
    cases v with
    | null | arr | obj => cases h
    | bool b =>
      cases b
      · exact Except.ok.inj h ▸ .no
      · exact Except.ok.inj h ▸ .yes
    | int i =>
      by_cases hi : Fits i
      · rw [ofValue_of_fits hi] at h
        exact Except.ok.inj h ▸ .int hi
      · rw [ofValue_of_not_fits hi] at h
        exact Except.ok.inj h ▸ .wide hi
    | float x => exact Except.ok.inj h ▸ .float
    | str t => exact Except.ok.inj h ▸ .text
  · intro h
    cases h with
    | text | yes | no | float => rfl
    | int hi => rw [ofValue_of_fits hi]; rfl
    | wide hi => rw [ofValue_of_not_fits hi]; rfl

/-- Every integer is a text, whichever number it becomes. -/
theorem exists_asText_int (i : Int) : ∃ s, AsText (.int i) s := by
  by_cases hi : Fits i
  · exact ⟨_, .int hi⟩
  · exact ⟨_, .wide hi⟩

theorem optionalString_of_string {t : Tree} (h : t.string = .ok s) : t.optionalString = .ok (some s) := by
  unfold optionalString
  split
  · cases h
  · rw [h]
    rfl

theorem optionalString_eq_ok_iff {o : Option String} :
    (ofValue origin v).optionalString = .ok o ↔ AsOptional v o := by
  have htext {s : String} (hs : AsText v s) : (ofValue origin v).optionalString = .ok (some s) :=
    optionalString_of_string (string_eq_ok_iff.mpr hs)
  constructor
  · intro h
    cases v with
    | null => exact Except.ok.inj h ▸ .none
    | arr | obj => cases h
    | bool b =>
      cases b
      · exact Except.ok.inj ((htext .no).symm.trans h) ▸ .some .no
      · exact Except.ok.inj ((htext .yes).symm.trans h) ▸ .some .yes
    | int i =>
      obtain ⟨s, hs⟩ := exists_asText_int i
      exact Except.ok.inj ((htext hs).symm.trans h) ▸ .some hs
    | float => exact Except.ok.inj h ▸ .some .float
    | str => exact Except.ok.inj h ▸ .some .text
  · intro h
    cases h with
    | none => rfl
    | some hs => exact htext hs

/-! ## Lists of texts -/

theorem sortedItems_eq (ts : List Tree) : sortedItems ts = ts.map Tree.sorted := by
  induction ts with
  | nil => rfl
  | cons t ts ih => rw [sortedItems, ih, List.map_cons]

theorem treesOfJson_eq (vs : List Value) : treesOfJson origin vs = vs.map (ofJson origin) := by
  induction vs with
  | nil => rfl
  | cons v vs ih => rw [treesOfJson, ih, List.map_cons]

theorem canonicalItems_eq (vs : List Value) : Json.canonicalItems vs = vs.map Value.canonical := by
  induction vs with
  | nil => rfl
  | cons v vs ih => rw [Json.canonicalItems, ih, List.map_cons]

/-- The items of a list are read one by one. -/
theorem ofValue_arr (vs : List Value) : ofValue origin (.arr vs) = .list (some origin) (vs.map (ofValue origin)) := by
  rw [ofValue, Value.canonical, ofJson, sorted, canonicalItems_eq, treesOfJson_eq, sortedItems_eq, List.map_map,
    List.map_map]
  rfl

theorem stringsFrom_eq_ok_iff {i : Nat} {ts : List Tree} {ss : List String} :
    stringsFrom i ts = .ok ss ↔ List.Forall₂ (fun t s => t.string = .ok s) ts ss := by
  induction ts generalizing i ss with
  | nil => simp [stringsFrom, eq_comm]
  | cons t ts ih =>
    rw [List.forall₂_cons_left_iff, stringsFrom]
    constructor
    · intro h
      cases ht : t.string with
      | error => rw [ht] at h; cases h
      | ok s =>
        rw [ht] at h
        change (stringsFrom (i + 1) ts).bind _ = _ at h
        obtain ⟨more, hmore, h⟩ := bind_eq_ok.mp h
        exact ⟨s, more, rfl, ih.mp hmore, (Except.ok.inj h).symm⟩
    · rintro ⟨s, more, hs, hmore, rfl⟩
      rw [hs]
      change (stringsFrom (i + 1) ts).bind _ = _
      exact bind_eq_ok.mpr ⟨more, ih.mpr hmore, rfl⟩

theorem strings_eq_ok_iff {ss : List String} : (ofValue origin v).strings = .ok ss ↔ AsTexts v ss := by
  have hitems (vs : List Value) : (ofValue origin (.arr vs)).strings = .ok ss ↔ List.Forall₂ AsText vs ss := by
    rw [ofValue_arr, strings, stringsFrom_eq_ok_iff, List.forall₂_map_left_iff]
    simp only [string_eq_ok_iff]
  constructor
  · intro h
    cases v with
    | null | bool | int | float | str | obj => cases h
    | arr vs => exact .list ((hitems vs).mp h)
  · rintro ⟨h⟩
    exact (hitems _).mpr h

/-! ## Truth values -/

theorem isTrueWord_iff {word : String} : isTrueWord word = true ↔ word ∈ ["true", "on", "yes"] := by
  simp [isTrueWord, or_assoc]

theorem isFalseWord_iff {word : String} : isFalseWord word = true ↔ word ∈ ["false", "off", "no"] := by
  simp [isFalseWord, or_assoc]

theorem bool_str_eq_ok_iff {b : Bool} : (Tree.leaf (some origin) (.str s)).bool = .ok b ↔ AsTruth (.str s) b := by
  unfold Tree.bool
  simp only [isTrueWord_iff, isFalseWord_iff, ← List.mem_cons]
  constructor
  · intro h
    by_cases hyes : Text.lowercase s ∈ ["1", "true", "on", "yes"]
    · rw [if_pos hyes] at h
      exact Except.ok.inj h ▸ .trueWord hyes
    · rw [if_neg hyes] at h
      by_cases hno : Text.lowercase s ∈ ["0", "false", "off", "no"]
      · rw [if_pos hno] at h
        exact Except.ok.inj h ▸ .falseWord hno
      · rw [if_neg hno] at h
        cases h
  · intro h
    cases h with
    | trueWord hyes => rw [if_pos hyes]
    | falseWord hno => rw [if_neg fun hyes => false_of_words hyes hno, if_pos hno]

theorem bool_eq_ok_iff {b : Bool} : (ofValue origin v).bool = .ok b ↔ AsTruth v b := by
  -- an integer that has become another number is zero only if it was
  have hint (i : Int) : (ofValue origin (.int i)).bool = .ok (decide (i ≠ 0)) := by
    by_cases hi : Fits i
    · rw [ofValue_of_fits hi, Tree.bool]
      by_cases hzero : i = 0 <;> simp [hzero, bne]
    · rw [ofValue_of_not_fits hi, Tree.bool]
      by_cases hzero : i = 0 <;> simp [hzero, ← Bool.not_eq_true, Binary64.isZero_ofInt_iff]
  constructor
  · intro h
    cases v with
    | null | arr | obj => cases h
    | bool => exact Except.ok.inj h ▸ .bool
    | int i => exact Except.ok.inj ((hint i).symm.trans h) ▸ .int
    | float x => exact Except.ok.inj h ▸ .float
    | str t => exact bool_str_eq_ok_iff.mp h
  · intro h
    cases h with
    | bool | float => rfl
    | int => exact hint _
    | trueWord hs => exact bool_str_eq_ok_iff.mpr (.trueWord hs)
    | falseWord hs => exact bool_str_eq_ok_iff.mpr (.falseWord hs)

/-! ## Numbers -/

/-- What is rounded to nothing, a negative number or none at all. -/
theorem rounded_iff_of_none {x : Binary64} (h : x.isNaN = true ∨ x.isNegative = true) : Rounded x n ↔ n = 0 := by
  -- a finite number that is rounded to nothing is negative
  have hfloor : x.isFinite = true → min ⌊x.value + 1 / 2⌋₊ (2 ^ 64 - 1) = 0 := fun hx => by
    have hnegative : x.isNegative = true := h.resolve_left (by simp [Binary64.isNaN_of_isFinite hx])
    rw [Binary64.floor_value_of_isNegative hnegative, Nat.zero_min]
  constructor
  · intro hr
    cases hr with
    | finite hx => exact hfloor hx
    | infinite _ hnotNaN hpositive => simp [hnotNaN, hpositive] at h
    | none => rfl
  · rintro rfl
    cases hx : x.isFinite with
    | true => exact hfloor hx ▸ .finite hx
    | false => exact .none hx h

/-- What is rounded to something, if it is finite, and otherwise to the greatest number there is. -/
theorem rounded_iff_of_some {x : Binary64} (h : ¬(x.isNaN = true ∨ x.isNegative = true)) :
    Rounded x n ↔ n = if !x.isFinite then maxUInt64 else min x.roundMagnitude maxUInt64 := by
  obtain ⟨hnotNaN, hpositive⟩ : x.isNaN = false ∧ x.isNegative = false := by simpa using h
  have hvalue : x.value = x.magnitude := by rw [Binary64.value, if_neg (by simp [hpositive])]
  have hmax : maxUInt64 = 2 ^ 64 - 1 := rfl
  rw [Binary64.roundMagnitude_eq, ← hvalue, hmax]
  constructor
  · intro hr
    cases hr with
    | finite hx => simp [hx]
    | infinite hx => simp [hx]
    | none _ hnone => exact absurd hnone h
  · rintro rfl
    cases hx : x.isFinite with
    | true => exact .finite hx
    | false => exact .infinite hx hnotNaN hpositive

theorem nat_float_eq_ok_iff {x : Binary64} : (Tree.leaf (some origin) (.float x)).nat = .ok n ↔ Rounded x n := by
  rw [Tree.nat]
  by_cases h : x.isNaN = true ∨ x.isNegative = true
  · rw [if_pos h, rounded_iff_of_none h, Except.ok.injEq, eq_comm]
  · rw [if_neg h, rounded_iff_of_some h]
    split <;> rw [Except.ok.injEq, eq_comm]

theorem parseDigits_eq_some_iff {ds : List Char} :
    (if ds.isEmpty ∨ !ds.all Char.isDigit then none
      else
        let n := ds.foldl (fun n c => n * 10 + (c.toNat - 48)) 0
        if n ≤ maxUInt64 then some n else none) = some n ↔
      ds ≠ [] ∧ (∀ c ∈ ds, c.isDigit = true) ∧ n = Nat.ofDigitChars 10 ds 0 ∧ n < 2 ^ 64 := by
  have hfold : ds.foldl (fun n c => n * 10 + (c.toNat - 48)) 0 = Nat.ofDigitChars 10 ds 0 := by
    simp only [Nat.ofDigitChars, Nat.mul_comm]
    rfl
  have hmax : maxUInt64 = 2 ^ 64 - 1 := rfl
  have hdigits : ¬(ds.isEmpty = true ∨ (!ds.all Char.isDigit) = true) ↔ ds ≠ [] ∧ ∀ c ∈ ds, c.isDigit = true := by simp
  rw [Option.ite_none_left_eq_some, hdigits, and_assoc, hfold, hmax]
  simp only [Option.ite_none_right_eq_some, Option.some.injEq]
  constructor
  · rintro ⟨hne, hall, hle, rfl⟩
    exact ⟨hne, hall, rfl, by omega⟩
  · rintro ⟨hne, hall, rfl, hlt⟩
    exact ⟨hne, hall, by omega, rfl⟩

theorem exists_plus (cs : List Char) : ∃ sign ∈ [[], ['+']], cs = sign ++ (match cs with
    | '+' :: rest => rest
    | ds => ds) := by
  split
  · exact ⟨['+'], by simp, rfl⟩
  · exact ⟨[], by simp, rfl⟩

theorem parseNat?_eq_some_iff : parseNat? s = some n ↔ InDigits s n ∧ n < 2 ^ 64 := by
  unfold parseNat?
  dsimp only
  rw [parseDigits_eq_some_iff]
  constructor
  · rintro ⟨hne, hall, hn, hlt⟩
    obtain ⟨sign, hsign, hs⟩ := exists_plus s.toList
    exact ⟨⟨sign, _, hs, hsign, hne, hall, hn⟩, hlt⟩
  · rintro ⟨⟨sign, ds, hs, hsign, hne, hall, hn⟩, hlt⟩
    rw [hs]
    simp only [List.mem_cons, List.not_mem_nil, or_false] at hsign
    rcases hsign with rfl | rfl
    · -- a digit is no plus
      rw [List.nil_append]
      split
      · exact absurd (hall '+' List.mem_cons_self) (by decide)
      · exact ⟨hne, hall, hn, hlt⟩
    · exact ⟨hne, hall, hn, hlt⟩

theorem nat_str_eq_ok_iff : (Tree.leaf (some origin) (.str s)).nat = .ok n ↔ AsNumber (.str s) n := by
  rw [Tree.nat]
  simp only [isTrueWord_iff, isFalseWord_iff]
  constructor
  · intro h
    by_cases hyes : Text.lowercase s ∈ ["true", "on", "yes"]
    · rw [if_pos hyes] at h
      exact Except.ok.inj h ▸ .trueWord hyes
    rw [if_neg hyes] at h
    by_cases hno : Text.lowercase s ∈ ["false", "off", "no"]
    · rw [if_pos hno] at h
      exact Except.ok.inj h ▸ .falseWord hno
    rw [if_neg hno] at h
    cases hparse : parseNat? s with
    | none => rw [hparse] at h; cases h
    | some m =>
      rw [hparse] at h
      obtain rfl := Except.ok.inj h
      obtain ⟨hdigits, hlt⟩ := parseNat?_eq_some_iff.mp hparse
      exact .digits hdigits hlt
  · intro h
    cases h with
    | trueWord hyes => rw [if_pos hyes]
    | falseWord hno =>
      rw [if_neg fun hyes => false_of_words (List.mem_cons_of_mem _ hyes) (List.mem_cons_of_mem _ hno), if_pos hno]
    | digits hdigits hlt =>
      -- words are looked for first
      rw [if_neg (hdigits.lowercase_notMem (by decide)), if_neg (hdigits.lowercase_notMem (by decide)),
        parseNat?_eq_some_iff.mpr ⟨hdigits, hlt⟩]

theorem nat_eq_ok_iff : (ofValue origin v).nat = .ok n ↔ AsNumber v n := by
  constructor
  · intro h
    cases v with
    | null | arr | obj => cases h
    | bool b =>
      cases b
      · exact Except.ok.inj h ▸ .zero
      · exact Except.ok.inj h ▸ .one
    | int i =>
      by_cases hi : Fits i
      · rw [ofValue_of_fits hi, Tree.nat] at h
        split_ifs at h with hpos
        · obtain ⟨m, rfl⟩ := Int.eq_ofNat_of_zero_le hpos
          exact Except.ok.inj h ▸ .int hi
        · cases h
      · rw [ofValue_of_not_fits hi] at h
        exact .wide hi (nat_float_eq_ok_iff.mp h)
    | float x => exact .float (nat_float_eq_ok_iff.mp h)
    | str t => exact nat_str_eq_ok_iff.mp h
  · intro h
    cases h with
    | one | zero => rfl
    | int hi =>
      rw [ofValue_of_fits hi, Tree.nat, if_pos (Int.natCast_nonneg _)]
      rfl
    | wide hi hr => rw [ofValue_of_not_fits hi, nat_float_eq_ok_iff.mpr hr]
    | float hr => exact nat_float_eq_ok_iff.mpr hr
    | trueWord hs => exact nat_str_eq_ok_iff.mpr (.trueWord hs)
    | falseWord hs => exact nat_str_eq_ok_iff.mpr (.falseWord hs)
    | digits hs hlt => exact nat_str_eq_ok_iff.mpr (.digits hs hlt)

theorem natBelow_eq_ok_iff {t : Tree} {bound : Nat} {name : String} :
    t.natBelow bound name = .ok n ↔ t.nat = .ok n ∧ n < bound := by
  unfold natBelow
  constructor
  · intro h
    obtain ⟨m, hm, h⟩ := bind_eq_ok.mp h
    split at h
    · next hlt =>
      obtain rfl := Except.ok.inj h
      exact ⟨hm, hlt⟩
    · cases h
  · rintro ⟨hn, hlt⟩
    exact bind_eq_ok.mpr ⟨n, hn, if_pos hlt⟩

end Tree

theorem Rounded.lt {x : Binary64} (h : Rounded x n) : n < 2 ^ 64 := by
  cases h <;> omega

/-- What is read as a number has 64 bits. -/
theorem AsNumber.lt (h : AsNumber v n) : n < 2 ^ 64 := by
  cases h with
  | int hi =>
    have hlt := hi.2
    omega
  | wide _ hr | float hr => exact hr.lt
  | one | zero | trueWord | falseWord => decide
  | digits _ hlt => exact hlt

/-! ## Kinds of settings -/

/-- How the settings of a type are read, and what each value is then read as. -/
structure Kind (α : Type) where
  read : Tree → Except ReadError α
  Says : Value → α → Prop
  read_eq_ok_iff : ∀ {origin : String} {v : Value} {a : α}, read (.ofValue origin v) = .ok a ↔ Says v a

namespace Kind

variable {α : Type}

/-- What is made of the numbers below a bound, if each of them is something else. -/
theorem map_ofNat_eq_ok_iff {x : Except ReadError Nat} {bound : Nat} {ofNat : Nat → α} {toNat : α → Nat} {a : α}
    (hx : ∀ n, x = .ok n ↔ AsNumber v n ∧ n < bound) (hofNat : ∀ n < bound, toNat (ofNat n) = n)
    (htoNat : ∀ a, toNat a < bound ∧ ofNat (toNat a) = a) : x.map ofNat = .ok a ↔ AsNumber v (toNat a) := by
  simp only [map_eq_ok, hx]
  constructor
  · rintro ⟨n, ⟨hn, hlt⟩, rfl⟩
    rwa [hofNat n hlt]
  · exact fun h => ⟨toNat a, ⟨h, (htoNat a).1⟩, (htoNat a).2⟩

/-- A value is read as one thing only. -/
theorem unique (k : Kind α) {a b : α} (ha : k.Says v a) (hb : k.Says v b) : a = b := by
  have hread : k.read (.ofValue "" v) = .ok a := k.read_eq_ok_iff.mpr ha
  exact Except.ok.inj (hread.symm.trans (k.read_eq_ok_iff.mpr hb))

/-- Texts. -/
def text : Kind String := ⟨Tree.format.string, AsText, Tree.string_eq_ok_iff⟩

/-- Truth values. -/
def truth : Kind Bool := ⟨Tree.format.bool, AsTruth, Tree.bool_eq_ok_iff⟩

/-- Texts that may be missing. -/
def optionalText : Kind (Option String) := ⟨Tree.format.optionalString, AsOptional, Tree.optionalString_eq_ok_iff⟩

/-- Lists of texts. -/
def texts : Kind (List String) := ⟨Tree.format.strings, AsTexts, Tree.strings_eq_ok_iff⟩

/-- Numbers of 16 bits. -/
def uint16 : Kind UInt16 where
  read := Tree.format.uint16
  Says v a := AsNumber v a.toNat
  read_eq_ok_iff :=
    map_ofNat_eq_ok_iff (fun n => by rw [Tree.natBelow_eq_ok_iff, Tree.nat_eq_ok_iff])
      (fun _ => UInt16.toNat_ofNat_of_lt') fun a => ⟨a.toNat_lt, UInt16.ofNat_toNat⟩

/-- Numbers of 32 bits. -/
def uint32 : Kind UInt32 where
  read := Tree.format.uint32
  Says v a := AsNumber v a.toNat
  read_eq_ok_iff :=
    map_ofNat_eq_ok_iff (fun n => by rw [Tree.natBelow_eq_ok_iff, Tree.nat_eq_ok_iff])
      (fun _ => UInt32.toNat_ofNat_of_lt') fun a => ⟨a.toNat_lt, UInt32.ofNat_toNat⟩

/-- Numbers of 64 bits. -/
def uint64 : Kind UInt64 where
  read := Tree.format.uint64
  Says v a := AsNumber v a.toNat
  read_eq_ok_iff :=
    map_ofNat_eq_ok_iff (fun n => by rw [Tree.nat_eq_ok_iff, iff_self_and]; exact AsNumber.lt)
      (fun _ => UInt64.toNat_ofNat_of_lt') fun a => ⟨a.toNat_lt, UInt64.ofNat_toNat⟩

end Kind

end ReportServer.Settings
