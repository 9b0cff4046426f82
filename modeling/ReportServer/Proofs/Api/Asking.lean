import ReportServer.Api.Handlers
import ReportServer.Text.Alphanumeric
import Mathlib.Data.List.TakeWhile
import Mathlib.Data.Nat.Digits.Defs
import Mathlib.Data.String.Basic

/-!
# What a request to the report routes asks for

A request to the report routes is read in three places: the header that says who is calling, and then
either the query, for the group of a listing, or the last segment of the path, for the id of a report.
Here it is said what these must look like, without saying how they are read; the readers of the server
find exactly what is there.
-/

namespace ReportServer.Api

open Http (Request Route)

/-! ## The token -/

/--
`Presents h t`: the first authorization value is plain text, its first blank follows the word `bearer` in
any case, and trimmed the rest is the token `t`, of which something is left.
-/
def Presents (h : Http.Headers) (token : String) : Prop :=
  ∃ (value : String) (scheme rest : List Char), h.first? "authorization" = some value
    ∧ Http.isPlainValue value = true ∧ value.toList = scheme ++ ' ' :: rest ∧ ' ' ∉ scheme
    ∧ asciiLower scheme = "bearer".toList ∧ Text.strip Text.isBlank rest ≠ []
    ∧ token = String.ofList (Text.strip Text.isBlank rest)

/-- All of a text comes before a character that it does not hold. -/
theorem takeWhile_of_notMem {s : List Char} {x : Char} (h : x ∉ s) : s.takeWhile (· != x) = s :=
  List.takeWhile_eq_self_iff.mpr fun c hc => by simpa using fun he : c = x => h (he ▸ hc)

/-- The part before the first blank of a text that has one. -/
theorem takeWhile_blank {scheme rest : List Char} (h : ' ' ∉ scheme) :
    (scheme ++ ' ' :: rest).takeWhile (· != ' ') = scheme := by
  rw [List.takeWhile_append_of_pos fun c hc => by simpa using fun he : c = ' ' => h (he ▸ hc)]
  simp

/-- Of a value that is split at its first blank. -/
theorem tokenOf_of_split {value : String} {scheme rest : List Char}
    (hs : value.toList = scheme ++ ' ' :: rest) (hblank : ' ' ∉ scheme) :
    tokenOf value = if Http.isPlainValue value = true ∧ asciiLower scheme = "bearer".toList
        ∧ Text.strip Text.isBlank rest ≠ []
      then some (String.ofList (Text.strip Text.isBlank rest)) else none := by
  have hdrop : (scheme ++ ' ' :: rest).drop (scheme.length + 1) = rest := by
    rw [← List.drop_drop, List.drop_left]
    rfl
  have hlength : scheme.length ≠ (scheme ++ ' ' :: rest).length := by simp
  rw [tokenOf]
  -- simp would spell the word out
  generalize "bearer".toList = word
  simp only [hs, takeWhile_blank hblank, hdrop, hlength, or_false]
  cases Http.isPlainValue value <;> simp

/-- A value without a blank has no token. -/
theorem tokenOf_of_notMem {value : String} (h : ' ' ∉ value.toList) : tokenOf value = none := by
  simp [tokenOf, takeWhile_of_notMem h]

theorem tokenOf_eq_some {value token : String} : tokenOf value = some token ↔
    ∃ scheme rest : List Char, Http.isPlainValue value = true ∧ value.toList = scheme ++ ' ' :: rest
      ∧ ' ' ∉ scheme ∧ asciiLower scheme = "bearer".toList ∧ Text.strip Text.isBlank rest ≠ []
      ∧ token = String.ofList (Text.strip Text.isBlank rest) := by
  constructor
  · intro h
    -- a value that has a token has a first blank, and there it is split
    by_cases hmem : ' ' ∈ value.toList
    · obtain ⟨scheme, rest, hs, hblank⟩ := List.eq_append_cons_of_mem hmem
      rw [tokenOf_of_split hs hblank, Option.ite_none_right_eq_some] at h
      obtain ⟨⟨hplain, hscheme, hne⟩, ht⟩ := h
      exact ⟨scheme, rest, hplain, hs, hblank, hscheme, hne, (Option.some.inj ht).symm⟩
    · rw [tokenOf_of_notMem hmem] at h
      exact absurd h (by simp)
  · rintro ⟨scheme, rest, hplain, hs, hblank, hscheme, hne, rfl⟩
    rw [tokenOf_of_split hs hblank, if_pos ⟨hplain, hscheme, hne⟩]

theorem bearerToken_eq_some {h : Http.Headers} {token : String} :
    bearerToken h = some token ↔ Presents h token := by
  rw [bearerToken, Option.bind_eq_some_iff]
  simp only [tokenOf_eq_some, Presents, exists_and_left]

theorem bearerToken_eq_none {h : Http.Headers} :
    bearerToken h = none ↔ ∀ token : String, ¬ Presents h token := by
  rw [Option.eq_none_iff_forall_ne_some]
  exact forall_congr' fun token => not_congr bearerToken_eq_some

/-! ## The group -/

/-- A group name as a caller has to spell it. -/
structure IsGroupName (g : String) : Prop where
  length : g.toList.length ≤ 100
  shape : ∃ (c : Char) (rest : List Char), g.toList = c :: rest ∧ c.isAlphanum = true
    ∧ ∀ x ∈ rest, x.isAlphanum = true ∨ x ∈ [' ', '_', '.', '-']

theorem isGroupNameChar_iff {c : Char} :
    Name.isGroupNameChar c = true ↔ c.isAlphanum = true ∨ c ∈ [' ', '_', '.', '-'] := by
  simp [Name.isGroupNameChar, Name.isWordChar, or_assoc]

theorem val_le_of_isAlphanum {c : Char} (h : c.isAlphanum = true) : c.val ≤ 127 :=
  UInt32.le_iff_toNat_le.mpr (Nat.le_trans (Text.toNat_of_isAlphanum h).2 (by decide))

/-- They are ASCII, so each of them is one byte. -/
theorem utf8Size_of_isGroupNameChar {c : Char} (h : Name.isGroupNameChar c = true) : c.utf8Size = 1 := by
  rw [Char.utf8Size_eq_one_iff]
  rcases isGroupNameChar_iff.mp h with h | h
  · exact val_le_of_isAlphanum h
  · simp only [List.mem_cons, List.not_mem_nil, or_false] at h
    rcases h with rfl | rfl | rfl | rfl <;> decide

theorem utf8ByteSize_of_all {s : String} (h : ∀ c ∈ s.toList, Name.isGroupNameChar c = true) :
    s.utf8ByteSize = s.toList.length := by
  have hlen : ∀ cs : List Char, (∀ c ∈ cs, Name.isGroupNameChar c = true) →
      (String.ofList cs).utf8ByteSize = cs.length := by
    intro cs hcs
    induction cs with
    | nil => rfl
    | cons c rest ih =>
        have hrest := ih fun x hx => hcs x (List.mem_cons_of_mem c hx)
        rw [String.utf8ByteSize_ofList] at hrest ⊢
        rw [String.utf8Len_cons, hrest, utf8Size_of_isGroupNameChar (hcs c List.mem_cons_self),
          List.length_cons]
  rw [← hlen _ h, String.ofList_toList]

theorem hasGroupNameShape_iff {s : List Char} : Name.hasGroupNameShape s = true ↔
    ∃ (c : Char) (rest : List Char), s = c :: rest ∧ c.isAlphanum = true
      ∧ ∀ x ∈ rest, x.isAlphanum = true ∨ x ∈ [' ', '_', '.', '-'] := by
  cases s with
  | nil => simp [Name.hasGroupNameShape]
  | cons c rest =>
      simp only [Name.hasGroupNameShape, Name.isWordChar, Bool.and_eq_true, List.all_eq_true,
        isGroupNameChar_iff, List.cons.injEq]
      exact ⟨fun h => ⟨c, rest, ⟨rfl, rfl⟩, h⟩, by rintro ⟨_, _, ⟨rfl, rfl⟩, h⟩; exact h⟩

theorem all_of_hasGroupNameShape {s : List Char} (h : Name.hasGroupNameShape s = true) :
    ∀ c ∈ s, Name.isGroupNameChar c = true := by
  obtain ⟨c, rest, rfl, hc, hrest⟩ := hasGroupNameShape_iff.mp h
  intro x hx
  rcases List.mem_cons.mp hx with rfl | hx
  · exact isGroupNameChar_iff.mpr (Or.inl hc)
  · exact isGroupNameChar_iff.mpr (hrest x hx)

/-- **What the check lets through is a group name**, and all group names are let through. Bytes are counted,
but of a name that has the shape there are as many as characters. -/
theorem checkGroupName_eq_ok {g : String} : Name.checkGroupName g = .ok () ↔ IsGroupName g := by
  have hbytes : Name.hasGroupNameShape g.toList = true → g.utf8ByteSize = g.toList.length := fun h =>
    utf8ByteSize_of_all (all_of_hasGroupNameShape h)
  unfold Name.checkGroupName Name.maxGroupNameLength
  constructor
  · intro h
    split at h
    · exact absurd h (by simp)
    · rename_i hlong
      split at h
      · rename_i hshape
        exact ⟨by rw [← hbytes hshape]; omega, hasGroupNameShape_iff.mp hshape⟩
      · exact absurd h (by simp)
  · intro h
    have hshape := hasGroupNameShape_iff.mpr h.shape
    have hlong : ¬ g.utf8ByteSize > 100 := by
      have := h.length
      rw [hbytes hshape]
      omega
    rw [if_neg hlong, if_pos hshape]

/-! ## The id -/

/-- The number that decimal digits stand for. -/
def decimal (ds : List Char) : Nat := Nat.ofDigits 10 (ds.map fun c => c.toNat - '0'.toNat).reverse

theorem foldl_eq_decimal {ds : List Char} (h : ∀ c ∈ ds, c.isDigit = true) :
    ds.foldl (fun (n : Int) c => n * 10 + (c.toNat - 48)) (0 : Nat) = decimal ds := by
  have hfold : ∀ m : Nat, ds.foldl (fun (n : Int) c => n * 10 + (c.toNat - 48)) m
      = (ds.foldl (fun n c => n * 10 + (c.toNat - '0'.toNat)) m : Nat) := by
    induction ds with
    | nil => exact fun m => rfl
    | cons c rest ih =>
        intro m
        have hc : 48 ≤ c.toNat := (Char.isDigit_iff_toNat.mp (h c List.mem_cons_self)).1
        have hstep : (m * 10 + (c.toNat - 48) : Int) = (m * 10 + (c.toNat - '0'.toNat) : Nat) := by
          show _ = ((m * 10 + (c.toNat - 48) : Nat) : Int)
          omega
        rw [List.foldl_cons, List.foldl_cons, hstep, ih fun x hx => h x (List.mem_cons_of_mem c hx)]
  rw [hfold, decimal, Nat.ofDigits_eq_foldr, List.foldr_reverse, List.foldl_map]
  simp only [Nat.cast_id, Nat.add_comm, Nat.mul_comm]

/-- `Spells s i`: `s` is the number `i` in decimal digits, with or without a sign. -/
def Spells (s : String) (i : Int) : Prop :=
  ∃ sign ds : List Char, s.toList = sign ++ ds ∧ sign ∈ [[], ['+'], ['-']] ∧ ds ≠ []
    ∧ (∀ c ∈ ds, c.isDigit = true) ∧ i = if sign = ['-'] then -(decimal ds : Int) else decimal ds

theorem exists_sign {s rest : List Char} {negative : Bool}
    (h : (match s with
      | '-' :: rest => (true, rest)
      | '+' :: rest => (false, rest)
      | ds => (false, ds)) = (negative, rest)) :
    ∃ sign : List Char, s = sign ++ rest ∧ sign ∈ [[], ['+'], ['-']] ∧ (negative = true ↔ sign = ['-']) := by
  split at h
  · obtain ⟨rfl, rfl⟩ := Prod.mk.inj h
    exact ⟨['-'], rfl, by simp, by simp⟩
  · obtain ⟨rfl, rfl⟩ := Prod.mk.inj h
    exact ⟨['+'], rfl, by simp, by simp⟩
  · obtain ⟨rfl, rfl⟩ := Prod.mk.inj h
    exact ⟨[], rfl, by simp, by simp⟩

theorem split_of_sign {sign ds : List Char} (hsign : sign ∈ [[], ['+'], ['-']]) (hne : ds ≠ [])
    (hds : ∀ c ∈ ds, c.isDigit = true) : (match sign ++ ds with
      | '-' :: rest => (true, rest)
      | '+' :: rest => (false, rest)
      | ds => (false, ds)) = (decide (sign = ['-']), ds) := by
  simp only [List.mem_cons, List.not_mem_nil, or_false] at hsign
  rcases hsign with rfl | rfl | rfl
  · rw [List.nil_append]
    split
    · exact absurd (hds '-' List.mem_cons_self) (by decide)
    · exact absurd (hds '+' List.mem_cons_self) (by decide)
    · rfl
  · rfl
  · rfl

theorem ofInt_eq_iff {i : Int} {id : Int64} :
    (Int64.minValue.toInt ≤ i ∧ i ≤ Int64.maxValue.toInt) ∧ Int64.ofInt i = id ↔ id.toInt = i := by
  constructor
  · rintro ⟨⟨hmin, hmax⟩, rfl⟩
    exact Int64.toInt_ofInt_of_le hmin (Int.lt_add_one_of_le hmax)
  · rintro rfl
    exact ⟨⟨Int64.minValue_le_toInt id, Int64.toInt_le id⟩, Int64.ofInt_toInt id⟩

/-- **A text is read as an id exactly if it spells it.** -/
theorem parseId_eq_some {s : String} {id : Int64} : parseId s = some id ↔ Spells s id.toInt := by
  constructor
  · intro h
    unfold parseId at h
    split at h
    rename_i negative ds hsplit
    -- the reader has taken a sign off, and what is left are digits
    obtain ⟨sign, hs, hsign, hneg⟩ := exists_sign hsplit
    rw [Option.ite_none_left_eq_some] at h
    obtain ⟨hcheck, h⟩ := h
    have hds : ds ≠ [] ∧ ∀ c ∈ ds, c.isDigit = true := by simpa using hcheck
    simp only [foldl_eq_decimal hds.2, Option.ite_none_right_eq_some, Option.some.injEq] at h
    refine ⟨sign, ds, hs, hsign, hds.1, hds.2, ?_⟩
    rw [ofInt_eq_iff.mp h]
    simp only [hneg]
  · rintro ⟨sign, ds, hs, hsign, hne, hds, hi⟩
    have hcheck : ¬ (ds.isEmpty = true ∨ (!ds.all Char.isDigit) = true) := by
      simpa using ⟨hne, hds⟩
    -- the number is that of an id, so it is in range
    have hrange := ofInt_eq_iff.mpr hi
    unfold parseId
    rw [hs]
    split
    rename_i negative ds' hsplit
    obtain ⟨rfl, rfl⟩ := Prod.mk.inj (hsplit.symm.trans (split_of_sign hsign hne hds))
    simp only [if_neg hcheck, foldl_eq_decimal hds, decide_eq_true_eq]
    rw [if_pos hrange.1, hrange.2]

/-- `Names segment id`: percent-decoded, the segment is the id in decimal digits. -/
def Names (segment : String) (id : Int64) : Prop :=
  ∃ text : String, Text.ofUtf8? (Net.percentDecoded segment) = some text ∧ Spells text id.toInt

theorem idOfSegment_eq_ok {segment : String} {id : Int64} :
    idOfSegment segment = .ok id ↔ Names segment id := by
  simp only [idOfSegment, Names, ← parseId_eq_some]
  cases Text.ofUtf8? (Net.percentDecoded segment) with
  | none => simp
  | some text =>
      simp only [Option.some.injEq, exists_eq_left']
      cases parseId text <;> simp

/-! ## Requests -/

/-- What a valid request asks for. -/
inductive Wish where
  /-- The reports of a group, or all of them. -/
  | listing (group : Option String)
  /-- The file of a report. -/
  | file (id : Int64)

/-- `Asks r route w`: on this route the request asks for `w`, and may. -/
inductive Asks (r : Request) : Route → Wish → Prop where
  | listing {group : Option String} :
      (r.queryPairs.filter (·.1 == "group")).map Prod.snd = group.toList →
      (∀ g ∈ group, IsGroupName g) → Asks r .reports (.listing group)
  | file {segment : String} {id : Int64} :
      Names segment id → 0 < id → Asks r (.report segment) (.file id)

theorem groupOf_eq_ok {pairs : List (String × String)} {group : Option String} :
    groupOf pairs = .ok group ↔ (pairs.filter (·.1 == "group")).map Prod.snd = group.toList := by
  unfold groupOf
  cases (pairs.filter (·.1 == "group")).map Prod.snd with
  | nil => cases group <;> simp
  | cons g rest =>
      cases rest with
      | nil => cases group <;> simp
      | cons => cases group <;> simp

theorem groupFault_eq_none {group : Option String} :
    groupFault group = none ↔ ∀ g ∈ group, IsGroupName g := by
  cases group with
  | none => simp [groupFault]
  | some g =>
      simp only [groupFault, Option.map_some, Option.mem_some_iff, forall_eq', ← checkGroupName_eq_ok]
      cases Name.checkGroupName g <;> simp

theorem asks_listing_iff {r : Request} {group : Option String} : Asks r .reports (.listing group) ↔
    groupOf r.queryPairs = .ok group ∧ groupFault group = none := by
  rw [groupOf_eq_ok, groupFault_eq_none]
  exact ⟨fun | .listing hq hg => ⟨hq, hg⟩, fun h => .listing h.1 h.2⟩

theorem asks_file_iff {r : Request} {segment : String} {id : Int64} : Asks r (.report segment) (.file id) ↔
    idOfSegment segment = .ok id ∧ Name.checkReportId id = .ok () := by
  have hcheck : Name.checkReportId id = .ok () ↔ 0 < id := by
    simp [Name.checkReportId, Name.isReportId]
  rw [hcheck, idOfSegment_eq_ok]
  exact ⟨fun | .file hs hid => ⟨hs, hid⟩, fun h => .file h.1 h.2⟩

end ReportServer.Api
