import Mathlib.Algebra.Order.Field.Power
import Mathlib.Algebra.Order.Field.Rat
import Mathlib.Data.Rat.Floor
import Mathlib.Tactic.Linarith
import Mathlib.Tactic.NormNum
import Mathlib.Tactic.Positivity
import Mathlib.Tactic.Ring
import ReportServer.Decimal.Shortest

/-!
# The number nearest to an integer

A floating point number stands for a rational number, and around it lie the rational numbers that round to it. An
integer that is made a floating point number lies there too, and the regions of different numbers do not meet, so the
region tells exactly which integers become the same number. The number is the integer itself exactly if the integer has
no more than fifty-three significant bits.
-/

namespace ReportServer.Decimal

theorem twoPow_eq (n : Nat) : twoPow n = 2 ^ n := rfl

theorem tenPow_eq (n : Nat) : tenPow n = 10 ^ n := rfl

namespace Binary64

/-! ## Quotients -/

/-- What a quotient of natural numbers is shifted to. -/
theorem scaled_eq (num : Nat) {den : Nat} (hden : 0 < den) (shift : Int) : 0 < (scaled num den shift).2 ∧
    ((scaled num den shift).1 : ℚ) / (scaled num den shift).2 = num / den * 2 ^ shift := by
  unfold scaled
  split
  · next hshift =>
    obtain ⟨k, rfl⟩ := Int.eq_ofNat_of_zero_le hshift
    refine ⟨hden, ?_⟩
    push_cast [twoPow_eq, Int.toNat_natCast, zpow_natCast]
    ring
  · next hshift =>
    obtain ⟨k, rfl⟩ : ∃ k : Nat, shift = -k := ⟨(-shift).toNat, by omega⟩
    refine ⟨Nat.mul_pos hden (twoPow_pos _), ?_⟩
    push_cast [twoPow_eq, neg_neg, Int.toNat_natCast, zpow_neg, zpow_natCast]
    rw [div_mul_eq_div_div, div_eq_mul_inv _ ((2 : ℚ) ^ k)]

/-- `q` is the natural number nearest to `r`; of two nearest ones the even one. -/
structure Nearest (r : ℚ) (q : Nat) : Prop where
  near : |r - q| ≤ 1 / 2
  even : |r - q| = 1 / 2 → q % 2 = 0

theorem nearest_divNearestEven (num : Nat) {den : Nat} (hden : 0 < den) :
    Nearest (num / den) (divNearestEven num den) := by
  have hd : (0 : ℚ) < den := by exact_mod_cast hden
  -- what is left over, as a part of the divisor
  obtain ⟨rest, hrest⟩ : ∃ rest : ℚ, rest * den = (num % den : Nat) := ⟨_, div_mul_cancel₀ _ (ne_of_gt hd)⟩
  have hsplit : (num : ℚ) / den = (num / den : Nat) + rest := by
    rw [div_eq_iff (ne_of_gt hd), add_mul, hrest]
    exact_mod_cast (Nat.div_add_mod' num den).symm
  have hnonneg : 0 ≤ rest := nonneg_of_mul_nonneg_left (by rw [hrest]; positivity) hd
  have hdown : 2 * (num % den) < den ↔ rest < 1 / 2 := by
    rw [← mul_lt_mul_iff_left₀ hd, hrest, ← Nat.cast_lt (α := ℚ)]
    push_cast
    constructor <;> intro h <;> linarith
  have hup : den < 2 * (num % den) ↔ 1 / 2 < rest := by
    rw [← mul_lt_mul_iff_left₀ hd, hrest, ← Nat.cast_lt (α := ℚ)]
    push_cast
    constructor <;> intro h <;> linarith
  have hone : rest < 1 := by
    rw [← mul_lt_mul_iff_left₀ hd, hrest, one_mul]
    exact_mod_cast Nat.mod_lt num hden
  rw [hsplit]
  unfold divNearestEven
  simp only [hdown, hup]
  split_ifs with hlow hhigh
  · have habs : |((num / den : Nat) : ℚ) + rest - (num / den : Nat)| = rest := by
      rw [add_sub_cancel_left, abs_of_nonneg hnonneg]
    refine ⟨by linarith, ?_⟩
    intro h
    linarith
  · have habs : |((num / den : Nat) : ℚ) + rest - (num / den + 1 : Nat)| = 1 - rest := by
      push_cast
      rw [add_sub_add_left_eq_sub, abs_sub_comm, abs_of_nonneg (by linarith)]
    refine ⟨by linarith, ?_⟩
    intro h
    linarith
  · have hhalf : rest = 1 / 2 := le_antisymm (not_lt.mp hhigh) (not_lt.mp hlow)
    rcases Nat.mod_two_eq_zero_or_one (num / den) with heven | hodd
    · rw [heven, Nat.add_zero]
      refine ⟨?_, fun _ => heven⟩
      rw [hhalf, add_sub_cancel_left]
      norm_num
    · rw [hodd]
      refine ⟨?_, fun _ => by omega⟩
      push_cast
      rw [hhalf, add_sub_add_left_eq_sub]
      norm_num [abs_of_neg]

/-- Rounding does not leave an interval whose ends are natural numbers. -/
theorem Nearest.le {r : ℚ} {q n : Nat} (h : Nearest r q) (hn : (n : ℚ) ≤ r) : n ≤ q := by
  by_contra hlt
  have hq : (q : ℚ) + 1 ≤ n := by exact_mod_cast not_le.mp hlt
  have := (abs_le.mp h.near).2
  linarith

theorem Nearest.ge {r : ℚ} {q n : Nat} (h : Nearest r q) (hn : r ≤ n) : q ≤ n := by
  by_contra hlt
  have hq : (n : ℚ) + 1 ≤ q := by exact_mod_cast not_le.mp hlt
  have := (abs_le.mp h.near).1
  linarith

/-- A natural number is rounded to itself. -/
theorem Nearest.eq {q n : Nat} (h : Nearest n q) : q = n := Nat.le_antisymm (h.ge le_rfl) (h.le le_rfl)

/-! ## Parts of a number -/

variable {x y : Binary64} {n : Nat}

theorem toNat_withSign (negative : Bool) (h : n < 2 ^ 63) :
    (withSign negative n).bits.toNat = (if negative then n + 2 ^ 63 else n) := by
  unfold withSign
  rw [UInt64.toNat_ofNat_of_lt']
  · rfl
  · cases negative <;> simp [twoPow_eq, UInt64.size] <;> omega

theorem isNegative_withSign (negative : Bool) (h : n < 2 ^ 63) : (withSign negative n).isNegative = negative := by
  unfold isNegative
  rw [toNat_withSign negative h, twoPow_eq]
  cases negative <;> simp
  omega

theorem biased_withSign (negative : Bool) (h : n < 2 ^ 63) : (withSign negative n).biased = n / 2 ^ 52 := by
  unfold biased
  rw [toNat_withSign negative h, twoPow_eq]
  split <;> omega

theorem fraction_withSign (negative : Bool) (h : n < 2 ^ 63) : (withSign negative n).fraction = n % 2 ^ 52 := by
  unfold fraction
  rw [toNat_withSign negative h, twoPow_eq]
  split <;> omega

/-- A number is known from its parts. -/
theorem ext_of_parts (hsign : x.isNegative = y.isNegative) (hbiased : x.biased = y.biased)
    (hfraction : x.fraction = y.fraction) : x = y := by
  have hx := x.bits.toNat_lt
  have hy := y.bits.toNat_lt
  have hsign' : 2 ^ 63 ≤ x.bits.toNat ↔ 2 ^ 63 ≤ y.bits.toNat := decide_eq_decide.mp hsign
  simp only [biased, fraction, twoPow_eq] at hbiased hfraction
  have hbits : x.bits.toNat = y.bits.toNat := by omega
  exact congrArg Binary64.mk (UInt64.toNat_inj.mp hbits)

theorem isNaN_of_isFinite (h : x.isFinite = true) : x.isNaN = false := by
  simp only [isFinite, bne_iff_ne] at h
  simp [isNaN, h]

/-- Neither zero nor so small that the leading bit is missing, and finite. -/
structure Normal (x : Binary64) : Prop where
  pos : 0 < x.biased
  lt : x.biased < 2047

namespace Normal

variable (h : x.Normal)

include h

theorem significand_eq : x.significand = x.fraction + 2 ^ 52 := by
  unfold significand
  rw [if_neg (by have := h.pos; omega), twoPow_eq]

theorem le_significand : 2 ^ 52 ≤ x.significand := by
  rw [h.significand_eq]
  omega

theorem significand_lt : x.significand < 2 ^ 53 := by
  have hfraction : x.fraction < 2 ^ 52 := Nat.mod_lt _ (twoPow_pos 52)
  rw [h.significand_eq]
  omega

theorem exponent_eq : x.exponent = x.biased - 1075 := by
  have := h.pos
  unfold exponent
  omega

theorem isFinite : x.isFinite = true := by
  have := h.lt
  unfold Binary64.isFinite
  simp
  omega

theorem isNaN : x.isNaN = false := isNaN_of_isFinite h.isFinite

theorem isZero : x.isZero = false := by
  have := h.pos
  unfold Binary64.isZero
  simp
  omega

end Normal

/-- A number is known from its sign, its significand and its exponent. -/
theorem Normal.ext (hx : x.Normal) (hy : y.Normal) (hsign : x.isNegative = y.isNegative)
    (hsignificand : x.significand = y.significand) (hexponent : x.exponent = y.exponent) : x = y := by
  rw [hx.significand_eq, hy.significand_eq] at hsignificand
  rw [hx.exponent_eq, hy.exponent_eq] at hexponent
  exact ext_of_parts hsign (by omega) (by omega)

/-- The size of a finite number. -/
def magnitude (x : Binary64) : ℚ := x.significand * 2 ^ x.exponent

/-- The value of a finite number. -/
def value (x : Binary64) : ℚ := if x.isNegative then -x.magnitude else x.magnitude

theorem magnitude_nonneg (x : Binary64) : 0 ≤ x.magnitude := by
  unfold magnitude
  positivity

/-- Nothing is left of a negative number when it is rounded to a natural number. -/
theorem floor_value_of_isNegative (h : x.isNegative = true) : ⌊x.value + 1 / 2⌋₊ = 0 := by
  have hmagnitude := x.magnitude_nonneg
  rw [Nat.floor_eq_zero, value, if_pos h]
  linarith

/-- Halves are rounded up. -/
theorem roundMagnitude_eq (x : Binary64) : x.roundMagnitude = ⌊x.magnitude + 1 / 2⌋₊ := by
  obtain ⟨hpos, hscaled⟩ := scaled_eq x.significand Nat.one_pos x.exponent
  rw [Nat.cast_one, div_one] at hscaled
  unfold roundMagnitude
  generalize scaled x.significand 1 x.exponent = q at hpos hscaled
  have hd : (q.2 : ℚ) ≠ 0 := by positivity
  have hhalf : x.magnitude + 1 / 2 = (2 * q.1 + q.2 : Nat) / (2 * q.2 : Nat) := by
    rw [magnitude, ← hscaled]
    push_cast
    field_simp
  rw [hhalf, Rat.natFloor_natCast_div_natCast]

/-! ## Making a number of an integer -/

/-- The place of the last bit of a number between `2 ^ log2 n` and twice as much. -/
def lastPlace (n : Nat) : ℚ := 2 ^ ((n.log2 : Int) - 52)

theorem lastPlace_pos : 0 < lastPlace n := by
  unfold lastPlace
  positivity

/-- A natural number has fifty-three bits before its last place. -/
theorem bounds_lastPlace (hn : n ≠ 0) : 2 ^ 52 * lastPlace n ≤ n ∧ (n : ℚ) < 2 ^ 53 * lastPlace n := by
  have hlow : (2 : ℚ) ^ n.log2 ≤ n := by exact_mod_cast Nat.log2_self_le hn
  have hhigh : (n : ℚ) < 2 ^ (n.log2 + 1) := by exact_mod_cast Nat.lt_log2_self
  have hplace : (2 : ℚ) ^ 52 * lastPlace n = 2 ^ n.log2 := by
    unfold lastPlace
    rw [zpow_sub₀ (by norm_num), zpow_natCast]
    norm_num
    ring
  constructor
  · rwa [hplace]
  · calc (n : ℚ) < 2 ^ (n.log2 + 1) := hhigh
      _ = 2 ^ 53 * lastPlace n := by rw [pow_succ, ← hplace]; ring

theorem targetExponent_natural (hn : n ≠ 0) : targetExponent n 1 0 = (n.log2 : Int) - 52 := by
  have hguess : (n.log2 : Int) - Nat.log2 1 - 52 + 0 = n.log2 - 52 := by
    have hone : Nat.log2 1 = 0 := by decide
    omega
  obtain ⟨hpos, hscaled⟩ := scaled_eq n Nat.one_pos (-((n.log2 : Int) - 52))
  unfold targetExponent
  simp only [hguess, zero_sub]
  rw [if_neg, max_eq_left (by omega)]
  -- the number has at least fifty-three bits before the place guessed
  have hd : (0 : ℚ) < (scaled n 1 (-((n.log2 : Int) - 52))).2 := by exact_mod_cast hpos
  have hshift : (2 : ℚ) ^ (-((n.log2 : Int) - 52)) = (lastPlace n)⁻¹ := zpow_neg _ _
  have hle : (2 : ℚ) ^ 52 ≤ (scaled n 1 (-((n.log2 : Int) - 52))).1 / (scaled n 1 (-((n.log2 : Int) - 52))).2 := by
    rw [hscaled, Nat.cast_one, div_one, hshift, ← div_eq_mul_inv, le_div_iff₀ lastPlace_pos]
    exact (bounds_lastPlace hn).1
  rw [le_div_iff₀ hd] at hle
  rw [not_lt, twoPow_eq, Nat.mul_comm]
  exact_mod_cast hle

/-- What an integer other than zero is made. -/
theorem ofInt_eq {i : Int} (hi : i ≠ 0) :
    ∃ q, Nearest (i.natAbs / lastPlace i.natAbs) q ∧ 2 ^ 52 ≤ q ∧ q ≤ 2 ^ 53 ∧
      ofInt i = withSign (i < 0) (min ((i.natAbs.log2 + 1022) * 2 ^ 52 + q) (2047 * 2 ^ 52)) := by
  have hn : i.natAbs ≠ 0 := Int.natAbs_ne_zero.mpr hi
  obtain ⟨hlow, hhigh⟩ := bounds_lastPlace hn
  obtain ⟨hpos, hscaled⟩ := scaled_eq i.natAbs Nat.one_pos (-((i.natAbs.log2 : Int) - 52))
  have hshift : (2 : ℚ) ^ (-((i.natAbs.log2 : Int) - 52)) = (lastPlace i.natAbs)⁻¹ := zpow_neg _ _
  rw [Nat.cast_one, div_one, hshift, ← div_eq_mul_inv] at hscaled
  rw [ofInt, ofQuotient, if_neg hn, targetExponent_natural hn]
  dsimp only
  rw [Int.zero_sub]
  generalize scaled i.natAbs 1 (-((i.natAbs.log2 : Int) - 52)) = s at hpos hscaled ⊢
  have hq := nearest_divNearestEven s.1 hpos
  rw [hscaled] at hq
  have hle : 2 ^ 52 ≤ divNearestEven s.1 s.2 := by
    refine hq.le ?_
    rw [le_div_iff₀ lastPlace_pos]
    exact_mod_cast hlow
  have hge : divNearestEven s.1 s.2 ≤ 2 ^ 53 := by
    refine hq.ge ?_
    rw [div_le_iff₀ lastPlace_pos]
    exact_mod_cast hhigh.le
  have hexponent : ((i.natAbs.log2 : Int) - 52 + 1074).toNat = i.natAbs.log2 + 1022 := by omega
  exact ⟨_, hq, hle, hge, by rw [infinityBits, twoPow_eq, if_neg (not_lt.mpr hle), hexponent]⟩

/-- A number that is nearest to a natural number. -/
structure Rounds (n : Nat) (x : Binary64) : Prop where
  normal : x.Normal
  /-- The last place of the number is twice that of the natural number where a power of two is rounded up to. -/
  exponent : x.exponent = n.log2 - 52 ∨ x.exponent = n.log2 - 51 ∧ x.significand = 2 ^ 52
  nearest : ∃ q, Nearest (n / lastPlace n) q ∧ x.magnitude = q * lastPlace n

theorem rounds_ofInt {i : Int} (hi : i ≠ 0) (hsize : i.natAbs.log2 ≤ 1022) :
    Rounds i.natAbs (ofInt i) ∧ (ofInt i).isNegative = decide (i < 0) := by
  obtain ⟨q, hq, hle, hge, hx⟩ := ofInt_eq hi
  rw [min_eq_left (by omega)] at hx
  have hbits : (i.natAbs.log2 + 1022) * 2 ^ 52 + q < 2 ^ 63 := by omega
  have hbiased := biased_withSign (decide (i < 0)) hbits
  have hfraction := fraction_withSign (decide (i < 0)) hbits
  have hsign := isNegative_withSign (decide (i < 0)) hbits
  rw [← hx] at hbiased hfraction hsign
  generalize ofInt i = x at *
  have hnormal : x.Normal := ⟨by omega, by omega⟩
  have hexponent := hnormal.exponent_eq
  have hsignificand := hnormal.significand_eq
  rcases Nat.lt_or_eq_of_le hge with hlt | rfl
  · have hplace : x.exponent = i.natAbs.log2 - 52 := by omega
    have hq' : x.significand = q := by omega
    refine ⟨⟨hnormal, .inl hplace, q, hq, ?_⟩, hsign⟩
    rw [magnitude, hq', hplace, lastPlace]
  · -- the significand would need one bit more, so it is halved
    have hplace : x.exponent = i.natAbs.log2 - 52 + 1 := by omega
    have hq' : x.significand = 2 ^ 52 := by omega
    refine ⟨⟨hnormal, .inr ⟨by omega, hq'⟩, _, hq, ?_⟩, hsign⟩
    rw [magnitude, hq', hplace, zpow_add_one₀ (by norm_num), lastPlace]
    push_cast
    ring

/-- What is made of an integer that is very large is larger than all others. -/
theorem le_biased_ofInt {i : Int} (hi : i ≠ 0) (hsize : 1022 < i.natAbs.log2) : 2046 ≤ (ofInt i).biased := by
  obtain ⟨q, -, hle, hge, hx⟩ := ofInt_eq hi
  have hbits : min ((i.natAbs.log2 + 1022) * 2 ^ 52 + q) (2047 * 2 ^ 52) < 2 ^ 63 := by omega
  rw [hx, biased_withSign _ hbits]
  omega

/-! ## What rounds to a number -/

end Binary64

/-- The rational numbers between the ends of an interval, with the ends if they belong to it. -/
def RoundingInterval.Contains (i : RoundingInterval) (r : ℚ) : Prop :=
  if i.closed then i.lower * 2 ^ i.quarter ≤ r ∧ r ≤ i.upper * 2 ^ i.quarter
  else i.lower * 2 ^ i.quarter < r ∧ r < i.upper * 2 ^ i.quarter

namespace Binary64

variable {x y : Binary64} {n : Nat} {r : ℚ}

/-- The distance to the lower end, in last places: at a power of two the numbers below are nearer. -/
def roomBelow (x : Binary64) : ℚ := if x.significand = 2 ^ 52 ∧ 1 < x.biased then 1 / 4 else 1 / 2

theorem roomBelow_le : x.roomBelow ≤ 1 / 2 := by
  unfold roomBelow
  split <;> norm_num

theorem le_roomBelow : 1 / 4 ≤ x.roomBelow := by
  unfold roomBelow
  split <;> norm_num

theorem roomBelow_of_ne (h : x.significand ≠ 2 ^ 52) : x.roomBelow = 1 / 2 := if_neg fun hpower => h hpower.1

/-- What rounds to a number lies around it. The ends belong to it if its significand is even. -/
theorem Normal.contains_iff (h : x.Normal) : x.interval.Contains r ↔
    if x.significand % 2 = 0 then
      (x.significand - x.roomBelow) * 2 ^ x.exponent ≤ r ∧ r ≤ (x.significand + 1 / 2) * 2 ^ x.exponent
    else (x.significand - x.roomBelow) * 2 ^ x.exponent < r ∧ r < (x.significand + 1 / 2) * 2 ^ x.exponent := by
  have hm := h.le_significand
  have hquarter : (2 : ℚ) ^ x.interval.quarter = 2 ^ x.exponent / 4 := by
    unfold interval
    rw [zpow_sub₀ (by norm_num)]
    norm_num
  have hlower : x.interval.lower * (2 : ℚ) ^ x.interval.quarter = (x.significand - x.roomBelow) * 2 ^ x.exponent := by
    rw [hquarter]
    unfold interval roomBelow
    simp only [Bool.and_eq_true, beq_iff_eq, decide_eq_true_eq, twoPow_eq]
    split_ifs
    · rw [Nat.cast_sub (by omega)]
      push_cast
      ring
    · rw [Nat.cast_sub (by omega)]
      push_cast
      ring
  have hupper : x.interval.upper * (2 : ℚ) ^ x.interval.quarter = (x.significand + 1 / 2) * 2 ^ x.exponent := by
    rw [hquarter]
    unfold interval
    push_cast
    ring
  have hclosed : x.interval.closed = true ↔ x.significand % 2 = 0 := by
    unfold interval
    exact beq_iff_eq
  unfold RoundingInterval.Contains
  simp only [hlower, hupper, hclosed]

/-- A smaller number. -/
def Below (x y : Binary64) : Prop :=
  x.exponent < y.exponent ∨ x.exponent = y.exponent ∧ x.significand < y.significand

/-- The upper end of a smaller number is not above the lower end, and only one of two ends that meet is taken. -/
theorem Below.ends_le (hx : x.Normal) (hy : y.Normal) (hlt : Below x y) :
    (x.significand + 1 / 2 : ℚ) * 2 ^ x.exponent ≤ (y.significand - y.roomBelow) * 2 ^ y.exponent ∧
      (x.significand % 2 = 0 → y.significand % 2 = 0 →
        (x.significand + 1 / 2 : ℚ) * 2 ^ x.exponent < (y.significand - y.roomBelow) * 2 ^ y.exponent) := by
  have hplace : (0 : ℚ) < 2 ^ x.exponent := by positivity
  have hmx := hx.significand_lt
  have hmy := hy.le_significand
  rcases hlt with hexponent | ⟨hexponent, hsignificand⟩
  · -- the last place is at least doubled, and the smaller significand has one bit less
    have hdouble : 2 * (2 : ℚ) ^ x.exponent ≤ 2 ^ y.exponent := by
      rw [mul_comm, ← zpow_add_one₀ (by norm_num)]
      exact zpow_le_zpow_right₀ (by norm_num) (by omega)
    have hlower : (2 : ℚ) ^ 52 - 1 / 4 ≤ y.significand - y.roomBelow := by
      rcases eq_or_ne y.significand (2 ^ 52) with he | hne
      · have hroom : y.roomBelow = 1 / 4 := by
          have := hx.pos
          rw [hx.exponent_eq, hy.exponent_eq] at hexponent
          exact if_pos ⟨he, by omega⟩
        rw [he, hroom]
        norm_num
      · have hmore : (2 : ℚ) ^ 52 + 1 ≤ y.significand := by exact_mod_cast (by omega : 2 ^ 52 + 1 ≤ y.significand)
        have := y.roomBelow_le
        linarith
    have hscaled : ((2 : ℚ) ^ 53 - 1 / 2) * 2 ^ x.exponent ≤ (y.significand - y.roomBelow) * 2 ^ y.exponent := by
      calc ((2 : ℚ) ^ 53 - 1 / 2) * 2 ^ x.exponent = (2 ^ 52 - 1 / 4) * (2 * 2 ^ x.exponent) := by ring
        _ ≤ (y.significand - y.roomBelow) * 2 ^ y.exponent := by gcongr
    constructor
    · refine le_trans (mul_le_mul_of_nonneg_right ?_ hplace.le) hscaled
      have : (x.significand : ℚ) + 1 ≤ 2 ^ 53 := by exact_mod_cast hmx
      linarith
    · intro heven _
      refine lt_of_lt_of_le (mul_lt_mul_of_pos_right ?_ hplace) hscaled
      have : (x.significand : ℚ) + 2 ≤ 2 ^ 53 := by exact_mod_cast (by omega : x.significand + 2 ≤ 2 ^ 53)
      linarith
  · have hroom : y.roomBelow = 1 / 2 := roomBelow_of_ne (by have := hx.le_significand; omega)
    rw [hroom, ← hexponent]
    constructor
    · refine mul_le_mul_of_nonneg_right ?_ hplace.le
      have : (x.significand : ℚ) + 1 ≤ y.significand := by exact_mod_cast hsignificand
      linarith
    · intro hx2 hy2
      refine mul_lt_mul_of_pos_right ?_ hplace
      have : (x.significand : ℚ) + 2 ≤ y.significand := by
        exact_mod_cast (by omega : x.significand + 2 ≤ y.significand)
      linarith

/-- Nothing rounds to a number and to a smaller one. -/
theorem Below.not_contains (hx : x.Normal) (hy : y.Normal) (hlt : Below x y) (hxr : x.interval.Contains r) :
    ¬y.interval.Contains r := by
  intro hyr
  obtain ⟨hle, hstrict⟩ := hlt.ends_le hx hy
  rw [hx.contains_iff] at hxr
  rw [hy.contains_iff] at hyr
  split_ifs at hxr hyr with hxeven hyeven hyeven
  · have := hstrict hxeven hyeven
    linarith [hxr.2, hyr.1]
  all_goals linarith [hxr.2, hyr.1]

/-- What rounds to two numbers shows that they agree. -/
theorem Normal.eq_of_contains (hx : x.Normal) (hy : y.Normal) (hxr : x.interval.Contains r)
    (hyr : y.interval.Contains r) : x.significand = y.significand ∧ x.exponent = y.exponent := by
  by_contra hne
  have hlt : Below x y ∨ Below y x := by
    unfold Below
    omega
  rcases hlt with hlt | hlt
  · exact hlt.not_contains hx hy hxr hyr
  · exact hlt.not_contains hy hx hyr hxr

/-- A natural number lies in the interval of the number nearest to it. -/
theorem Rounds.contains (hn : n ≠ 0) (h : Rounds n x) : x.interval.Contains n := by
  obtain ⟨hlow, hhigh⟩ := bounds_lastPlace hn
  have hplace := lastPlace_pos (n := n)
  obtain ⟨q, hq, hmagnitude⟩ := h.nearest
  rw [h.normal.contains_iff]
  rcases h.exponent with hexponent | ⟨hexponent, hpower⟩
  · have hscale : (2 : ℚ) ^ x.exponent = lastPlace n := by rw [hexponent, lastPlace]
    have hsignificand : x.significand = q := by
      rw [magnitude, hscale] at hmagnitude
      exact_mod_cast mul_right_cancel₀ hplace.ne' hmagnitude
    rw [← hsignificand] at hq
    have hnear := hq.near
    rw [hscale, ← le_div_iff₀ hplace, ← div_le_iff₀ hplace, ← lt_div_iff₀ hplace, ← div_lt_iff₀ hplace]
    have hroom : (x.significand : ℚ) - x.roomBelow ≤ n / lastPlace n := by
      rcases eq_or_ne x.significand (2 ^ 52) with he | hne
      · have := x.le_roomBelow
        have : (2 : ℚ) ^ 52 ≤ n / lastPlace n := by rwa [le_div_iff₀ hplace]
        rw [he]
        push_cast
        linarith
      · rw [roomBelow_of_ne hne]
        linarith [(abs_le.mp hnear).1]
    split_ifs with hodd
    · exact ⟨hroom, by linarith [(abs_le.mp hnear).2]⟩
    · -- an odd significand is not taken from one half of a last place away
      have hlt : |n / lastPlace n - x.significand| < 1 / 2 := lt_of_le_of_ne hnear fun he => hodd (hq.even he)
      have hne : x.significand ≠ 2 ^ 52 := by
        rintro he
        omega
      rw [roomBelow_of_ne hne]
      exact ⟨by linarith [(abs_lt.mp hlt).1], by linarith [(abs_lt.mp hlt).2]⟩
  · have hscale : (2 : ℚ) ^ x.exponent = 2 * lastPlace n := by
      rw [hexponent, lastPlace, ← zpow_one_add₀ (by norm_num)]
      congr 1
      omega
    have hq53 : (q : ℚ) = 2 ^ 53 := by
      rw [magnitude, hscale, hpower] at hmagnitude
      refine mul_right_cancel₀ hplace.ne' (hmagnitude.symm.trans ?_)
      push_cast
      ring
    have hnear := (abs_le.mp hq.near).1
    rw [hq53, le_sub_iff_add_le, le_div_iff₀ hplace] at hnear
    rw [if_pos (by omega), hscale, hpower]
    have := x.le_roomBelow
    push_cast
    constructor
    · calc ((2 : ℚ) ^ 52 - x.roomBelow) * (2 * lastPlace n) ≤ (2 ^ 52 - 1 / 4) * (2 * lastPlace n) := by gcongr
        _ = (-(1 / 2) + 2 ^ 53) * lastPlace n := by ring
        _ ≤ n := hnear
    · calc (n : ℚ) ≤ 2 ^ 53 * lastPlace n := hhigh.le
        _ = 2 ^ 52 * (2 * lastPlace n) := by ring
        _ ≤ (2 ^ 52 + 1 / 2) * (2 * lastPlace n) := by gcongr; norm_num

/-! ## Which integers become the same number -/

variable {i j : Int}

theorem log2_le_of_lt_two_pow (h : n < 2 ^ 64) : n.log2 ≤ 63 := by
  rcases Nat.eq_zero_or_pos n with rfl | hpos
  · decide
  · exact Nat.le_of_lt_succ ((Nat.log2_lt hpos.ne').mpr h)

/-- Only zero is made a zero. -/
theorem isZero_ofInt_iff : (ofInt i).isZero = true ↔ i = 0 := by
  constructor
  · intro hzero
    by_contra hi
    rcases Nat.lt_or_ge 1022 i.natAbs.log2 with hlarge | hsmall
    · have hbiased := le_biased_ofInt hi hlarge
      unfold isZero at hzero
      simp at hzero
      omega
    · rw [(rounds_ofInt hi hsmall).1.normal.isZero] at hzero
      cases hzero
  · rintro rfl
    decide

/-- What lies in the interval of a number made of an integer of 64 bits is no very large integer. -/
theorem Rounds.log2_le (hn : n < 2 ^ 64) (h : Rounds n x) {k : Nat} (hk : x.interval.Contains k) : k.log2 ≤ 65 := by
  by_contra hlarge
  have hlog := log2_le_of_lt_two_pow hn
  have hexponent : x.exponent ≤ 12 := by
    rcases h.exponent with hexponent | ⟨hexponent, -⟩ <;> omega
  have hupper : (k : ℚ) ≤ (x.significand + 1 / 2) * 2 ^ x.exponent := by
    rw [h.normal.contains_iff] at hk
    split_ifs at hk
    · exact hk.2
    · exact hk.2.le
  have hbig : (2 : ℚ) ^ 66 ≤ k := by
    have hk0 : k ≠ 0 := by
      rintro rfl
      exact hlarge (by decide)
    exact_mod_cast (Nat.le_log2 hk0).mp (not_le.mp hlarge)
  have hsignificand : (x.significand : ℚ) + 1 ≤ 2 ^ 53 := by exact_mod_cast h.normal.significand_lt
  have hsmall : (x.significand + 1 / 2 : ℚ) * 2 ^ x.exponent ≤ 2 ^ 53 * 2 ^ (12 : Int) := by
    gcongr
    · linarith
    · norm_num
  have := hbig.trans (hupper.trans hsmall)
  norm_num at this

/-- An integer of 64 bits becomes the number in whose interval it lies, and exactly those do that lie there too. -/
theorem ofInt_eq_iff_contains (hi : i ≠ 0) (hsize : i.natAbs < 2 ^ 64) :
    ofInt j = ofInt i ↔ j ≠ 0 ∧ (j < 0 ↔ i < 0) ∧ (ofInt i).interval.Contains j.natAbs := by
  have hlog := log2_le_of_lt_two_pow hsize
  obtain ⟨hx, hxsign⟩ := rounds_ofInt hi (by omega)
  constructor
  · intro he
    have hj : j ≠ 0 := by
      intro hzero
      rw [← isZero_ofInt_iff, he, isZero_ofInt_iff] at hzero
      exact hi hzero
    have hjlog : j.natAbs.log2 ≤ 1022 := by
      by_contra hlarge
      have hbiased := le_biased_ofInt hj (not_le.mp hlarge)
      have hexponent := hx.normal.exponent_eq
      rw [he] at hbiased
      rcases hx.exponent with h | ⟨h, -⟩ <;> omega
    obtain ⟨hy, hysign⟩ := rounds_ofInt hj hjlog
    rw [he] at hy hysign
    refine ⟨hj, ?_, hy.contains (Int.natAbs_ne_zero.mpr hj)⟩
    simpa [hxsign] using hysign.symm
  · rintro ⟨hj, hsign, hcontains⟩
    obtain ⟨hy, hysign⟩ := rounds_ofInt hj ((hx.log2_le hsize hcontains).trans (by omega))
    obtain ⟨hsignificand, hexponent⟩ :=
      hy.normal.eq_of_contains hx.normal (hy.contains (Int.natAbs_ne_zero.mpr hj)) hcontains
    refine hy.normal.ext hx.normal ?_ hsignificand hexponent
    rw [hxsign, hysign]
    simp [hsign]

/-- An integer of 64 bits lies in the interval of the number it becomes. -/
theorem contains_ofInt (hi : i ≠ 0) (hsize : i.natAbs < 2 ^ 64) : (ofInt i).interval.Contains i.natAbs :=
  ((ofInt_eq_iff_contains hi hsize).mp rfl).2.2

/-! ## Which integers are kept -/

/-- At most fifty-three bits of a number are significant: it is such a number times a power of two. -/
def FewBits (n : Nat) : Prop := ∃ m k, n = m * 2 ^ k ∧ m < 2 ^ 53

/-- A natural number with few significant bits has its last place behind all of them. -/
theorem FewBits.exists_mul_lastPlace (hn : n ≠ 0) (h : FewBits n) : ∃ c : Nat, (n : ℚ) = c * lastPlace n := by
  obtain ⟨m, k, hmk, hm⟩ := h
  have hlog : n.log2 < 53 + k := by
    rw [Nat.log2_lt hn, hmk, pow_add]
    exact Nat.mul_lt_mul_of_pos_right hm (Nat.two_pow_pos k)
  refine ⟨m * 2 ^ (k + 52 - n.log2), ?_⟩
  have hplace : (2 : ℚ) ^ (k + 52 - n.log2) * lastPlace n = 2 ^ k := by
    rw [lastPlace, ← zpow_natCast, ← zpow_natCast, ← zpow_add₀ (by norm_num)]
    congr 1
    omega
  rw [hmk]
  push_cast
  rw [← hmk, mul_assoc, hplace]

/-- An integer has the value of a number with its sign if it has its size. -/
theorem value_eq_iff (hsign : x.isNegative = decide (i < 0)) : x.value = i ↔ x.magnitude = i.natAbs := by
  rw [value, hsign, Nat.cast_natAbs]
  by_cases hneg : i < 0
  · rw [if_pos (by simpa using hneg), abs_of_neg hneg, Int.cast_neg, neg_eq_iff_eq_neg]
  · rw [if_neg (by simpa using hneg), abs_of_nonneg (not_lt.mp hneg)]

/-- An integer that is not too large is the value of the number it becomes exactly if at most fifty-three of its bits
are significant. -/
theorem value_ofInt_eq_iff (hsize : i.natAbs.log2 ≤ 1022) : (ofInt i).value = i ↔ FewBits i.natAbs := by
  rcases eq_or_ne i 0 with rfl | hi
  · have hzero : (ofInt 0).significand = 0 := by decide
    have hvalue : (ofInt 0).value = (0 : Int) := by simp [value, magnitude, hzero]
    exact ⟨fun _ => ⟨0, 0, rfl, by norm_num⟩, fun _ => hvalue⟩
  have hn : i.natAbs ≠ 0 := Int.natAbs_ne_zero.mpr hi
  have hplace := lastPlace_pos (n := i.natAbs)
  obtain ⟨hx, hxsign⟩ := rounds_ofInt hi hsize
  rw [value_eq_iff hxsign]
  obtain ⟨q, hq, hmagnitude⟩ := hx.nearest
  constructor
  · intro he
    rcases Nat.lt_or_ge i.natAbs (2 ^ 53) with hsmall | hlarge
    · exact ⟨_, 0, by simp, hsmall⟩
    · have hlog : 53 ≤ i.natAbs.log2 := (Nat.le_log2 hn).mpr hlarge
      obtain ⟨k, hk⟩ : ∃ k : Nat, (ofInt i).exponent = k := by
        refine ⟨(ofInt i).exponent.toNat, ?_⟩
        rcases hx.exponent with h | ⟨h, -⟩ <;> omega
      rw [magnitude, hk, zpow_natCast] at he
      exact ⟨_, k, by exact_mod_cast he.symm, hx.normal.significand_lt⟩
  · intro h
    obtain ⟨c, hc⟩ := h.exists_mul_lastPlace hn
    rw [hc, mul_div_cancel_right₀ _ hplace.ne'] at hq
    rw [hmagnitude, hq.eq, ← hc]

end Binary64

end ReportServer.Decimal
