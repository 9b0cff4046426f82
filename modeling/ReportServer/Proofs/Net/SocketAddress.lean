import Mathlib.Data.List.Basic
import Mathlib.Data.List.TakeWhile
import ReportServer.Net.SocketAddress

/-!
# Which texts are socket addresses

The reader of an address goes through the text from the front and takes as much as fits. Here it is said without a
reader which texts are numbers, IPv4 addresses and IPv6 addresses and what each of them stands for, and the reader is
shown to take exactly those (`parse?_append_iff`).

A text can be divided in one way only, because what may follow a part never continues it: a number is not followed by
a digit, and the groups of an IPv6 address are followed by the end of the brackets, by a scope, or by two colons.
-/

namespace ReportServer.Net

variable {base bound digits limit n : Nat} {leadingZeros first dotted : Bool} {s w rest : List Char}
  {gs octets : List Nat}

/-! ## Numbers -/

/-- A number written out in a base. -/
structure Numeral (base bound : Nat) (w : List Char) (n : Nat) : Prop where
  nonempty : w ≠ []
  digits : ∀ c ∈ w, (digitIn base c).isSome = true
  value : w.foldl (fun n c => n * base + (digitIn base c).getD 0) 0 = n
  lt : n < bound

/-- Texts that do not begin with a digit. -/
def Stops (base : Nat) (s : List Char) : Prop := ∀ c ∈ s.head?, digitIn base c = none

theorem stops_nil : Stops base [] := by simp [Stops]

theorem stops_cons {c : Char} : Stops base (c :: s) ↔ digitIn base c = none := by simp [Stops]

theorem stops_drop_takeWhile : Stops base (s.drop (s.takeWhile fun c => (digitIn base c).isSome).length) := by
  induction s with
  | nil => exact stops_nil
  | cons c s ih =>
    cases hc : digitIn base c with
    | none => simpa [hc] using stops_cons.mpr hc
    | some d => simpa [hc] using ih

/-- Digits that are followed by no digit are the digits at the front. -/
theorem takeWhile_append_of_stops (hdigits : ∀ c ∈ w, (digitIn base c).isSome = true) (hstop : Stops base rest) :
    ((w ++ rest).takeWhile fun c => (digitIn base c).isSome) = w := by
  rw [List.takeWhile_append_of_pos hdigits]
  cases rest with
  | nil => exact List.append_nil w
  | cons c rest => simp [stops_cons.mp hstop]

/-- What a number is read from: all digits at the front, if they are not too many and their value is not too large. -/
theorem number_eq_some_iff : number base digits bound leadingZeros s = some (n, rest) ↔
    ∃ w, s = w ++ rest ∧ Numeral base bound w n ∧ w.length ≤ digits ∧
      (leadingZeros = false → w.head? = some '0' → w.length ≤ 1) ∧ Stops base rest := by
  constructor
  · intro h
    simp only [number] at h
    split at h
    · cases h
    · next hsize =>
      simp only [not_or, List.isEmpty_iff, Nat.not_lt, Nat.not_le] at hsize
      obtain ⟨hne, hlength, hlt⟩ := hsize
      split at h
      · cases h
      · next hzero =>
        obtain ⟨hvalue, hrest⟩ := Prod.mk.inj (Option.some.inj h)
        refine ⟨_, ?_, ⟨hne, fun _ hc => List.mem_takeWhile_imp (p := fun c => (digitIn base c).isSome) hc, hvalue, hvalue ▸ hlt⟩, hlength, ?_, ?_⟩
        · rw [← hrest]
          exact (List.prefix_iff_eq_append.mp (List.takeWhile_prefix _)).symm
        · intro hall hhead
          by_contra hlong
          exact hzero ⟨by simp [hall], hhead, by omega⟩
        · exact hrest ▸ stops_drop_takeWhile
  · rintro ⟨w, rfl, hnum, hlength, hzero, hstop⟩
    simp only [number, takeWhile_append_of_stops hnum.digits hstop, List.drop_left, hnum.value]
    have hsize : ¬(w.isEmpty = true ∨ digits < w.length ∨ bound ≤ n) := by
      have hne := hnum.nonempty
      have hlt := hnum.lt
      simp only [List.isEmpty_iff, hne, false_or]
      omega
    rw [if_neg hsize, if_neg]
    rintro ⟨hall, hhead, hlong⟩
    have := hzero (by simpa using hall) hhead
    omega

/-- A number that may have any number of digits. -/
theorem number_length_eq_some_iff : number base s.length bound true s = some (n, rest) ↔
    ∃ w, s = w ++ rest ∧ Numeral base bound w n ∧ Stops base rest := by
  rw [number_eq_some_iff]
  constructor
  · rintro ⟨w, hs, hnum, -, -, hstop⟩
    exact ⟨w, hs, hnum, hstop⟩
  · rintro ⟨w, rfl, hnum, hstop⟩
    exact ⟨w, rfl, hnum, by simp, by simp, hstop⟩

theorem char_eq_some_iff {c : Char} {u : Unit} : char c s = some (u, rest) ↔ s = c :: rest := by
  cases s with
  | nil => simp [char]
  | cons d s => by_cases h : c = d <;> simp [char, h, eq_comm]

/-! ## IPv4 -/

/-- A part of an IPv4 address: up to three decimal digits, the first of more than one not zero. -/
structure Octet (w : List Char) (n : Nat) : Prop where
  numeral : Numeral 10 256 w n
  length_le : w.length ≤ 3
  noZero : w.head? = some '0' → w.length ≤ 1

/-- An IPv4 address: four parts with dots between them. -/
inductive Dotted : List Char → List Nat → Prop
  | mk {wa wb wc wd : List Char} {a b c d : Nat} (ha : Octet wa a) (hb : Octet wb b) (hc : Octet wc c)
    (hd : Octet wd d) : Dotted (wa ++ '.' :: (wb ++ '.' :: (wc ++ '.' :: wd))) [a, b, c, d]

theorem octet_eq_some_iff : number 10 3 256 false s = some (n, rest) ↔
    ∃ w, s = w ++ rest ∧ Octet w n ∧ Stops 10 rest := by
  rw [number_eq_some_iff]
  constructor
  · rintro ⟨w, hs, hnum, hlength, hzero, hstop⟩
    exact ⟨w, hs, ⟨hnum, hlength, hzero rfl⟩, hstop⟩
  · rintro ⟨w, hs, ⟨hnum, hlength, hzero⟩, hstop⟩
    exact ⟨w, hs, hnum, hlength, fun _ => hzero, hstop⟩

theorem ipv4_eq_some_iff : ipv4 s = some (octets, rest) ↔ ∃ w, s = w ++ rest ∧ Dotted w octets ∧ Stops 10 rest := by
  have hdot : ∀ s, Stops 10 ('.' :: s) := fun s => stops_cons.mpr (by decide)
  simp only [ipv4, Option.bind_eq_bind, Option.bind_eq_some_iff, Prod.exists, octet_eq_some_iff, char_eq_some_iff,
    Option.pure_def, Option.some.injEq, Prod.mk.injEq]
  constructor
  · rintro ⟨a, _, ⟨wa, rfl, ha, -⟩, -, _, rfl, b, _, ⟨wb, rfl, hb, -⟩, -, _, rfl, c, _, ⟨wc, rfl, hc, -⟩, -, _, rfl,
      d, _, ⟨wd, rfl, hd, hstop⟩, rfl, rfl⟩
    exact ⟨_, by simp, .mk ha hb hc hd, hstop⟩
  · rintro ⟨w, rfl, ⟨ha, hb, hc, hd⟩, hstop⟩
    simp only [List.append_assoc, List.cons_append]
    exact ⟨_, _, ⟨_, rfl, ha, hdot _⟩, (), _, rfl, _, _, ⟨_, rfl, hb, hdot _⟩, (), _, rfl,
      _, _, ⟨_, rfl, hc, hdot _⟩, (), _, rfl, _, _, ⟨_, rfl, hd, hstop⟩, rfl, rfl⟩

/-! ## IPv6 -/

/-- A group of an IPv6 address: up to four hexadecimal digits. -/
structure Group (w : List Char) (n : Nat) : Prop where
  numeral : Numeral 16 65536 w n
  length_le : w.length ≤ 4

theorem group_eq_some_iff : number 16 4 65536 true s = some (n, rest) ↔
    ∃ w, s = w ++ rest ∧ Group w n ∧ Stops 16 rest := by
  rw [number_eq_some_iff]
  constructor
  · rintro ⟨w, hs, hnum, hlength, -, hstop⟩
    exact ⟨w, hs, ⟨hnum, hlength⟩, hstop⟩
  · rintro ⟨w, hs, ⟨hnum, hlength⟩, hstop⟩
    exact ⟨w, hs, hnum, hlength, by simp, hstop⟩

/-- What stands in front of a group. -/
def between (first : Bool) : List Char := if first then [] else [':']

theorem separator_eq_some_iff {u : Unit} : separator first s = some (u, rest) ↔ s = between first ++ rest := by
  cases first with
  | true => simp [separator, between, eq_comm]
  | false => exact char_eq_some_iff

/-- Groups with colons between them; an IPv4 address may stand for the last two. -/
inductive Groups : Bool → List Char → List Nat → Bool → Prop
  | none {first : Bool} : Groups first [] [] false
  | dotted {first : Bool} {w : List Char} {a b c d : Nat} (hw : Dotted w [a, b, c, d]) :
    Groups first (between first ++ w) [a * 256 + b, c * 256 + d] true
  | cons {first dotted : Bool} {w more : List Char} {g : Nat} {gs : List Nat} (hw : Group w g)
    (hmore : Groups false more gs dotted) : Groups first (between first ++ (w ++ more)) (g :: gs) dotted

/-- An IPv4 address at the front, behind what stands in front of a group. -/
theorem embedded_eq_some_iff (first : Bool) : ((separator first s).bind fun (_, s) => ipv4 s) = some (octets, rest) ↔
    ∃ w, s = between first ++ (w ++ rest) ∧ Dotted w octets ∧ Stops 10 rest := by
  simp only [Option.bind_eq_some_iff, Prod.exists, separator_eq_some_iff, ipv4_eq_some_iff]
  constructor
  · rintro ⟨_, _, rfl, w, rfl, hw⟩
    exact ⟨w, rfl, hw⟩
  · rintro ⟨w, rfl, hw⟩
    exact ⟨(), _, rfl, w, rfl, hw⟩

/-- A group at the front, behind what stands in front of it. -/
theorem separated_eq_some_iff (first : Bool) :
    ((separator first s).bind fun (_, s) => number 16 4 65536 true s) = some (n, rest) ↔
    ∃ w, s = between first ++ (w ++ rest) ∧ Group w n ∧ Stops 16 rest := by
  simp only [Option.bind_eq_some_iff, Prod.exists, separator_eq_some_iff, group_eq_some_iff]
  constructor
  · rintro ⟨_, _, rfl, w, rfl, hw⟩
    exact ⟨w, rfl, hw⟩
  · rintro ⟨w, rfl, hw⟩
    exact ⟨(), _, rfl, w, rfl, hw⟩

/-- Groups that are read stand at the front of the text, and are not more than asked for. -/
theorem groups_sound (h : groups first limit s = (gs, dotted, rest)) :
    ∃ w, s = w ++ rest ∧ Groups first w gs dotted ∧ gs.length ≤ limit := by
  induction limit generalizing first s gs dotted rest with
  | zero =>
    obtain ⟨rfl, rfl, rfl⟩ : [] = gs ∧ false = dotted ∧ s = rest := by simpa [groups] using h
    exact ⟨[], rfl, .none, Nat.le_refl _⟩
  | succ limit ih =>
    simp only [groups] at h
    split at h
    · next octets rest' hembedded =>
      split at hembedded
      · cases hembedded
      · next hlimit =>
        obtain ⟨rfl, rfl, rfl⟩ : groupsOfIpv4 octets = gs ∧ true = dotted ∧ rest' = rest := by simpa using h
        obtain ⟨w, rfl, ⟨ha, hb, hc, hd⟩, -⟩ := (embedded_eq_some_iff _).mp hembedded
        have htwo : 2 ≤ limit + 1 := by omega
        exact ⟨_, (List.append_assoc ..).symm, .dotted (.mk ha hb hc hd), htwo⟩
    · split at h
      · obtain ⟨rfl, rfl, rfl⟩ : [] = gs ∧ false = dotted ∧ s = rest := by simpa using h
        exact ⟨[], rfl, .none, Nat.zero_le _⟩
      · next g rest' hgroup =>
        obtain ⟨rfl, rfl, rfl⟩ : g :: (groups false limit rest').1 = gs ∧ (groups false limit rest').2.1 = dotted ∧
            (groups false limit rest').2.2 = rest := by simpa only [Prod.mk.injEq] using h
        obtain ⟨w, rfl, hw, -⟩ := (separated_eq_some_iff _).mp hgroup
        obtain ⟨more, hrest', hmore, hlength⟩ := ih (s := rest') rfl
        refine ⟨between first ++ (w ++ more), ?_, .cons hw hmore, Nat.succ_le_succ hlength⟩
        rw [List.append_assoc, List.append_assoc, ← hrest']

/-- Texts that do not continue the groups of an address: it ends, a zone follows or two colons do. -/
inductive Ends : List Char → Prop
  | closed {s : List Char} : Ends (']' :: s)
  | zone {s : List Char} : Ends ('%' :: s)
  | gap {s : List Char} : Ends (':' :: ':' :: s)

theorem Ends.stops (h : Ends s) : Stops 16 s := by
  cases h <;> exact stops_cons.mpr (by decide)

theorem Ends.head?_ne_dot (h : Ends s) : s.head? ≠ some '.' := by
  cases h <;> simp

/-- Decimal digits are hexadecimal ones. -/
theorem isSome_digitIn_hex {c : Char} (h : (digitIn 10 c).isSome = true) : (digitIn 16 c).isSome = true := by
  obtain ⟨d, hd⟩ := Option.isSome_iff_exists.mp h
  obtain ⟨hdigit, hlt⟩ := Option.filter_eq_some_iff.mp hd
  exact Option.isSome_iff_exists.mpr ⟨d, Option.filter_eq_some_iff.mpr ⟨hdigit, by simp at hlt ⊢; omega⟩⟩

theorem Stops.of_hex (h : Stops 16 s) : Stops 10 s := by
  intro c hc
  rw [← Option.not_isSome_iff_eq_none]
  intro hsome
  simpa [h c hc] using isSome_digitIn_hex hsome

/-- What ends an address is not read as one more part of it, since each part begins with a hexadecimal digit. -/
theorem Ends.ne_append (h : Ends s) {c : Char} (hc : (digitIn 16 c).isSome = true) : s ≠ between first ++ c :: w := by
  intro he
  cases first with
  | true =>
    have hnone : digitIn 16 c = none := h.stops c (by simp [he, between])
    simp [hnone] at hc
  | false =>
    simp only [between, Bool.false_eq_true, if_false, List.singleton_append] at he
    cases h with
    | closed => cases he
    | zone => cases he
    | gap =>
      obtain rfl : ':' = c := (List.cons.inj (List.cons.inj he).2).1
      exact absurd hc (by decide)

theorem Group.exists_cons (h : Group w n) : ∃ c w', w = c :: w' ∧ (digitIn 16 c).isSome = true := by
  obtain ⟨c, w', rfl⟩ := List.exists_cons_of_ne_nil h.numeral.nonempty
  exact ⟨c, w', rfl, h.numeral.digits c (by simp)⟩

theorem Dotted.exists_cons (h : Dotted w octets) : ∃ c w', w = c :: w' ∧ (digitIn 16 c).isSome = true := by
  obtain ⟨ha, -, -, -⟩ := h
  obtain ⟨c, w', rfl⟩ := List.exists_cons_of_ne_nil ha.numeral.nonempty
  exact ⟨c, _, rfl, isSome_digitIn_hex (ha.numeral.digits c (by simp))⟩

theorem Ends.embedded_eq_none (h : Ends s) : ((separator first s).bind fun (_, s) => ipv4 s) = none := by
  rw [Option.eq_none_iff_forall_ne_some]
  rintro ⟨octets, rest⟩ hread
  obtain ⟨w, he, hw, -⟩ := (embedded_eq_some_iff _).mp hread
  obtain ⟨c, w', rfl, hc⟩ := hw.exists_cons
  exact h.ne_append hc he

theorem Ends.separated_eq_none (h : Ends s) :
    ((separator first s).bind fun (_, s) => number 16 4 65536 true s) = none := by
  rw [Option.eq_none_iff_forall_ne_some]
  rintro ⟨n, rest⟩ hread
  obtain ⟨w, he, hw, -⟩ := (separated_eq_some_iff _).mp hread
  obtain ⟨c, w', rfl, hc⟩ := hw.exists_cons
  exact h.ne_append hc he

/-- A group that is not followed by a dot does not begin an IPv4 address. -/
theorem embedded_eq_none_of_group (first : Bool) (hw : Group w n) (hstop : Stops 16 rest)
    (hdot : rest.head? ≠ some '.') :
    ((separator first (between first ++ (w ++ rest))).bind fun (_, s) => ipv4 s) = none := by
  rw [Option.eq_none_iff_forall_ne_some]
  rintro ⟨octets, rest'⟩ h
  obtain ⟨_, he, ⟨ha, hb, hc, hd⟩, -⟩ := (embedded_eq_some_iff _).mp h
  rw [List.append_cancel_left_eq, List.append_assoc, List.append_eq_append_iff] at he
  rcases he with ⟨more, rfl, hrest⟩ | ⟨more, rfl, hmore⟩
  · -- the first part of the IPv4 address reaches beyond the group
    cases more with
    | nil => exact hdot (congrArg List.head? hrest)
    | cons c more =>
      have hdigit := isSome_digitIn_hex (ha.numeral.digits c (by simp))
      simp [hstop c (by simp [hrest])] at hdigit
  · -- the dot lies within the group
    cases more with
    | nil => exact hdot (congrArg List.head? hmore).symm
    | cons c more =>
      obtain rfl : '.' = c := (List.cons.inj hmore).1
      exact absurd (hw.numeral.digits '.' (by simp)) (by decide)

/-- Behind a group comes a colon or the end of the groups. -/
theorem Groups.not_continued (h : Groups false w gs dotted) (hends : Ends rest) :
    Stops 16 (w ++ rest) ∧ (w ++ rest).head? ≠ some '.' := by
  cases h with
  | none => exact ⟨hends.stops, hends.head?_ne_dot⟩
  | dotted => exact ⟨stops_cons.mpr (by decide), by simp [between]⟩
  | cons => exact ⟨stops_cons.mpr (by decide), by simp [between]⟩

/-- Groups that are followed by what ends them are all read, and no more than they. -/
theorem groups_complete (h : Groups first w gs dotted) (hlength : gs.length ≤ limit) (hends : Ends rest) :
    groups first limit (w ++ rest) = (gs, dotted, rest) := by
  induction h generalizing limit with
  | none =>
    cases limit with
    | zero => rfl
    | succ limit => simp [groups, hends.embedded_eq_none, hends.separated_eq_none]
  | @dotted first w a b c d hw =>
    have hread := (embedded_eq_some_iff first).mpr ⟨w, rfl, hw, hends.stops.of_hex⟩
    obtain ⟨limit, rfl⟩ := Nat.exists_eq_add_of_le' hlength
    simp [groups, List.append_assoc, hread, groupsOfIpv4]
  | @cons first dotted w more g gs hw hmore ih =>
    obtain ⟨hstop, hdot⟩ := hmore.not_continued hends
    have hread := (separated_eq_some_iff first).mpr ⟨w, rfl, hw, hstop⟩
    have hnone := embedded_eq_none_of_group first hw hstop hdot
    obtain ⟨limit, rfl⟩ := Nat.exists_eq_add_of_le' hlength
    have hbehind := ih (Nat.le_add_left gs.length limit)
    simp [groups, List.append_assoc, hread, hnone, hbehind]

/-- An IPv6 address: eight groups, or fewer with two colons where zeros are left out. -/
inductive Ipv6 : List Char → List Nat → Prop
  | full {w : List Char} {gs : List Nat} {dotted : Bool} (h : Groups true w gs dotted) (hlength : gs.length = 8) :
    Ipv6 w gs
  | shortened {wf wb : List Char} {front back : List Nat} {dotted : Bool} (hfront : Groups true wf front false)
    (hback : Groups true wb back dotted) (hlength : front.length + back.length ≤ 7) :
    Ipv6 (wf ++ ':' :: ':' :: wb) (front ++ List.replicate (8 - front.length - back.length) 0 ++ back)

theorem ipv6_sound (h : ipv6 s = some (gs, rest)) : ∃ w, s = w ++ rest ∧ Ipv6 w gs := by
  rcases hread : groups true 8 s with ⟨front, dotted, behind⟩
  obtain ⟨wf, rfl, hfront, hlength⟩ := groups_sound hread
  simp only [ipv6, hread] at h
  split at h
  · next height =>
    obtain ⟨rfl, rfl⟩ := Prod.mk.inj (Option.some.inj h)
    exact ⟨wf, rfl, .full hfront height⟩
  · next hfewer =>
    split at h
    · cases h
    · next hdotted =>
      simp only [Option.bind_eq_bind, Option.bind_eq_some_iff, Prod.exists, char_eq_some_iff, Option.pure_def,
        Option.some.injEq, Prod.mk.injEq] at h
      obtain ⟨-, _, rfl, -, behind, rfl, rfl, rfl⟩ := h
      have hread' : groups true (7 - front.length) behind = (_, _, _) := rfl
      obtain ⟨wb, hbehind, hback, hroom⟩ := groups_sound hread'
      rw [Bool.eq_false_iff.mpr hdotted] at hfront
      refine ⟨wf ++ ':' :: ':' :: wb, ?_, .shortened hfront hback (by omega)⟩
      rw [List.append_assoc, List.cons_append, List.cons_append, ← hbehind]

theorem ipv6_complete (h : Ipv6 w gs) (hends : Ends rest) : ipv6 (w ++ rest) = some (gs, rest) := by
  cases h with
  | full h hlength => simp [ipv6, groups_complete h (Nat.le_of_eq hlength) hends, hlength]
  | @shortened wf wb front back dotted hfront hback hlength =>
    have hread : groups true 8 (wf ++ ':' :: ':' :: (wb ++ rest)) = (front, false, ':' :: ':' :: (wb ++ rest)) :=
      groups_complete hfront (by omega) .gap
    have hbehind : groups true (7 - front.length) (wb ++ rest) = (back, dotted, rest) :=
      groups_complete hback (by omega) hends
    have hfewer : front.length ≠ 8 := by omega
    simp [ipv6, hread, hbehind, hfewer, char]

/-! ## Addresses with ports -/

/-- The zone of an IPv6 address, with its number; without one the number is zero. -/
inductive Zone : List Char → Nat → Prop
  | none : Zone [] 0
  | numbered {w : List Char} {n : Nat} (h : Numeral 10 UInt32.size w n) : Zone ('%' :: w) n

/-- An address without its port, as it stands in front of one, and the address that it is with a port. -/
inductive Literal (port : Nat) : List Char → SocketAddress → Prop
  | v4 {w : List Char} {octets : List Nat} (h : Dotted w octets) : Literal port w (.v4 octets port)
  | v6 {w z : List Char} {gs : List Nat} {n : Nat} (h : Ipv6 w gs) (hz : Zone z n) :
    Literal port ('[' :: (w ++ (z ++ [']']))) (.v6 gs n port)

theorem scope_closed_iff {behind : List Char} :
    scope s = some (n, ']' :: behind) ↔ ∃ z, s = z ++ ']' :: behind ∧ Zone z n := by
  constructor
  · intro h
    rw [scope.eq_def] at h
    split at h
    · next s =>
      obtain ⟨w, rfl, hnum, -⟩ := number_length_eq_some_iff.mp h
      exact ⟨'%' :: w, rfl, .numbered hnum⟩
    · obtain ⟨rfl, rfl⟩ := Prod.mk.inj (Option.some.inj h)
      exact ⟨[], rfl, .none⟩
  · rintro ⟨z, rfl, hz⟩
    cases hz with
    | none => rfl
    | numbered hnum => exact number_length_eq_some_iff.mpr ⟨_, rfl, hnum, stops_cons.mpr (by decide)⟩

theorem port_eq_some_iff {p : Nat} : port s = some (p, []) ↔ Numeral 10 65536 s p := by
  rw [port, number_length_eq_some_iff]
  constructor
  · rintro ⟨w, rfl, hnum, -⟩
    rwa [List.append_nil]
  · exact fun hnum => ⟨s, (List.append_nil s).symm, hnum, stops_nil⟩

theorem Zone.ends (h : Zone w n) : Ends (w ++ ']' :: rest) := by
  cases h with
  | none => exact .closed
  | numbered => exact .zone

theorem socketV4_eq_some_iff {a : SocketAddress} : socketV4 s = some (a, []) ↔
    ∃ w octets digits p, s = w ++ ':' :: digits ∧ Dotted w octets ∧ Numeral 10 65536 digits p ∧ .v4 octets p = a := by
  simp only [socketV4, Option.bind_eq_bind, Option.bind_eq_some_iff, Prod.exists, ipv4_eq_some_iff,
    char_eq_some_iff, Option.pure_def, Option.some.injEq, Prod.mk.injEq]
  constructor
  · rintro ⟨octets, _, ⟨w, rfl, hw, -⟩, -, digits, rfl, p, _, hport, rfl, rfl⟩
    exact ⟨w, octets, digits, p, rfl, hw, port_eq_some_iff.mp hport, rfl⟩
  · rintro ⟨w, octets, digits, p, rfl, hw, hport, rfl⟩
    exact ⟨octets, _, ⟨w, rfl, hw, stops_cons.mpr (by decide)⟩, (), digits, rfl, p, [],
      port_eq_some_iff.mpr hport, rfl, rfl⟩

theorem socketV6_eq_some_iff {a : SocketAddress} : socketV6 s = some (a, []) ↔
    ∃ w gs z n digits p, s = '[' :: (w ++ (z ++ ']' :: ':' :: digits)) ∧ Ipv6 w gs ∧ Zone z n ∧
      Numeral 10 65536 digits p ∧ .v6 gs n p = a := by
  simp only [socketV6, Option.bind_eq_bind, Option.bind_eq_some_iff, Prod.exists,
    char_eq_some_iff, Option.pure_def, Option.some.injEq, Prod.mk.injEq]
  constructor
  · rintro ⟨-, _, rfl, gs, _, hread, n, _, hscope, -, _, rfl, -, digits, rfl, p, _, hport, rfl, rfl⟩
    obtain ⟨z, rfl, hz⟩ := scope_closed_iff.mp hscope
    obtain ⟨w, rfl, hw⟩ := ipv6_sound hread
    exact ⟨w, gs, z, n, digits, p, rfl, hw, hz, port_eq_some_iff.mp hport, rfl⟩
  · rintro ⟨w, gs, z, n, digits, p, rfl, hw, hz, hport, rfl⟩
    exact ⟨(), _, rfl, gs, _, ipv6_complete hw hz.ends, n, _, scope_closed_iff.mpr ⟨z, rfl, hz⟩, (), _, rfl, (), digits,
      rfl, p, [], port_eq_some_iff.mpr hport, rfl, rfl⟩

/-- A text is an address if it is an address without a port, a colon, and a port. -/
theorem parse?_eq_some_iff {text : String} {a : SocketAddress} : SocketAddress.parse? text = some a ↔
    ∃ w digits p, text.toList = w ++ ':' :: digits ∧ Numeral 10 65536 digits p ∧ Literal p w a := by
  have hwhole : ∀ r : Option (SocketAddress × List Char),
      (∃ b rest, r = some (b, rest) ∧ (if rest.isEmpty then some b else none) = some a) ↔ r = some (a, []) := by
    intro r
    constructor
    · rintro ⟨b, rest, rfl, h⟩
      obtain ⟨hrest, rfl⟩ : rest = [] ∧ b = a := by simpa using h
      rw [hrest]
    · rintro rfl
      exact ⟨_, _, rfl, rfl⟩
  simp only [SocketAddress.parse?, Option.or_eq_some_iff, Option.bind_eq_some_iff, Prod.exists, hwhole]
  constructor
  · rintro (h | ⟨-, h⟩)
    · obtain ⟨w, octets, digits, p, hs, hw, hport, rfl⟩ := socketV4_eq_some_iff.mp h
      exact ⟨w, digits, p, hs, hport, .v4 hw⟩
    · obtain ⟨w, gs, z, n, digits, p, hs, hw, hz, hport, rfl⟩ := socketV6_eq_some_iff.mp h
      exact ⟨_, digits, p, by simpa using hs, hport, .v6 hw hz⟩
  · rintro ⟨_, digits, p, hs, hport, hw | ⟨hw, hz⟩⟩
    · exact .inl (socketV4_eq_some_iff.mpr ⟨_, _, digits, p, hs, hw, hport, rfl⟩)
    · -- what begins with a bracket does not begin with a digit
      have hnot : ∀ s, ipv4 ('[' :: s) = none := by
        intro s
        rw [Option.eq_none_iff_forall_ne_some]
        rintro ⟨octets, rest⟩ hread
        obtain ⟨w, he, hw, -⟩ := ipv4_eq_some_iff.mp hread
        obtain ⟨c, w', rfl, hc⟩ := hw.exists_cons
        obtain rfl : '[' = c := (List.cons.inj he).1
        exact absurd hc (by decide)
      refine .inr ⟨?_, socketV6_eq_some_iff.mpr ⟨_, _, _, _, digits, p, by simpa using hs, hw, hz, hport, rfl⟩⟩
      rw [hs, List.cons_append, socketV4, hnot]
      rfl

theorem digitIn_of_isDigit {c : Char} (h : c.isDigit = true) : digitIn 10 c = some (c.toNat - '0'.toNat) := by
  obtain ⟨hge, hle⟩ := Char.isDigit_iff_toNat.mp h
  have hlt : c.toNat - 48 < 10 := Nat.sub_lt_left_of_lt_add hge (Nat.lt_succ_of_le hle)
  simp [digitIn, Text.hexDigit?, h, hlt]

/-- A number that is written out is read back. -/
theorem numeral_toDigits (hlt : n < bound) : Numeral 10 bound (Nat.toDigits 10 n) n := by
  have hdigit : ∀ c ∈ Nat.toDigits 10 n, digitIn 10 c = some (c.toNat - '0'.toNat) := fun c hc =>
    digitIn_of_isDigit (Nat.isDigit_of_mem_toDigits (by decide) (by decide) hc)
  refine ⟨Nat.toDigits_ne_nil, fun c hc => by simp [hdigit c hc], ?_, hlt⟩
  rw [List.foldl_ext _ (fun m c => 10 * m + (c.toNat - '0'.toNat)) 0 fun m c hc => by
    rw [hdigit c hc, Option.getD_some, Nat.mul_comm]]
  exact Nat.ofDigitChars_ten_toDigits

theorem Numeral.notMem {c : Char} (h : Numeral base bound w n) (hc : digitIn base c = none) : c ∉ w := fun hmem => by
  simpa [hc] using h.digits c hmem

/-- An address begins with a digit or with a bracket, and so does no host name that begins with a letter. -/
theorem Literal.head? {p : Nat} {a : SocketAddress} {c : Char} (h : Literal p (c :: w) a) :
    c = '[' ∨ (digitIn 10 c).isSome = true := by
  generalize hs : c :: w = s at h
  cases h with
  | v4 hw =>
    obtain ⟨ha, -, -, -⟩ := hw
    obtain ⟨d, w', rfl⟩ := List.exists_cons_of_ne_nil ha.numeral.nonempty
    obtain rfl : c = d := (List.cons.inj hs).1
    exact .inr (ha.numeral.digits c (by simp))
  | v6 => exact .inl (List.cons.inj hs).1

/-- A text is cut in one way only at the last place where a character stands. -/
theorem eq_of_append_cons_eq {α : Type} {c : α} {front front' back back' : List α}
    (h : front ++ c :: back = front' ++ c :: back') (hback : c ∉ back) (hback' : c ∉ back') :
    front = front' ∧ back = back' := by
  rcases List.append_eq_append_iff.mp h with ⟨more, rfl, he⟩ | ⟨more, rfl, he⟩
  · cases more with
    | nil => exact ⟨(List.append_nil _).symm, (List.cons.inj he).2⟩
    | cons d more => exact absurd (by simp [(List.cons.inj he).2]) hback
  · cases more with
    | nil => exact ⟨List.append_nil _, (List.cons.inj he).2.symm⟩
    | cons d more => exact absurd (by simp [(List.cons.inj he).2]) hback'

/-- A text in front of a colon and a port is read as an address exactly if it is an address without a port. -/
theorem parse?_append_iff {host : String} {p : Nat} (hp : p < 65536) {a : SocketAddress} :
    SocketAddress.parse? (host ++ ":" ++ toString p) = some a ↔ Literal p host.toList a := by
  have htext : (host ++ ":" ++ toString p).toList = host.toList ++ ':' :: Nat.toDigits 10 p := by simp
  have hport := numeral_toDigits hp
  have hcolon : digitIn 10 ':' = none := by decide
  rw [parse?_eq_some_iff, htext]
  constructor
  · rintro ⟨w, digits, p', hs, hnum, hw⟩
    obtain ⟨rfl, rfl⟩ := eq_of_append_cons_eq hs (hport.notMem hcolon) (hnum.notMem hcolon)
    exact hport.value.symm.trans hnum.value ▸ hw
  · exact fun hw => ⟨host.toList, _, p, rfl, hport, hw⟩

end ReportServer.Net
