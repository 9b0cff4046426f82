import ReportServer.Proofs.Decimal.Rounding

/-!
# The shortest decimal of an integer

The digits of a floating point number are looked for on one decimal grid after the other, the coarsest first. The first
grid that has a point in the interval of the number decides, with its point nearest to the number. For a number that
an integer was made of that point is an integer again. It becomes the same number, and among all integers that do so it
ends in the most zeros; of those with as many it is the nearest one.
-/

namespace ReportServer.Decimal

theorem powerOfTen_eq (k : Int) : 0 < (powerOfTen k).1 ∧ 0 < (powerOfTen k).2 ∧
    ((powerOfTen k).1 : ℚ) / (powerOfTen k).2 = 10 ^ k := by
  unfold powerOfTen
  split
  · next hk =>
    obtain ⟨n, rfl⟩ := Int.eq_ofNat_of_zero_le hk
    refine ⟨tenPow_pos _, Nat.one_pos, ?_⟩
    push_cast [tenPow_eq, Int.toNat_natCast, zpow_natCast]
    ring
  · next hk =>
    obtain ⟨n, rfl⟩ : ∃ n : Nat, k = -n := ⟨(-k).toNat, by omega⟩
    refine ⟨Nat.one_pos, tenPow_pos _, ?_⟩
    push_cast [tenPow_eq, neg_neg, Int.toNat_natCast, zpow_neg, zpow_natCast]
    ring

/-- `r` is nearer to `v` than `s`, or as near and larger. -/
def Closer (v r s : ℚ) : Prop := |r - v| < |s - v| ∨ |r - v| = |s - v| ∧ s < r

namespace RoundingInterval

variable {i : RoundingInterval} {step : Int} {r s t : ℚ}

/-- The number whose interval it is. -/
def center (i : RoundingInterval) : ℚ := i.value * 2 ^ i.quarter

/-- What lies between two rational numbers of an interval lies in it. -/
theorem Contains.convex (hr : i.Contains r) (hs : i.Contains s) (hrt : r ≤ t) (hts : t ≤ s) : i.Contains t := by
  unfold Contains at *
  split_ifs at * with hclosed
  · exact ⟨hr.1.trans hrt, hts.trans hs.2⟩
  · exact ⟨hr.1.trans_le hrt, hts.trans_lt hs.2⟩

theorem contains_center (hlower : i.lower < i.value) (hupper : i.value < i.upper) : i.Contains i.center := by
  have hquarter : (0 : ℚ) < 2 ^ i.quarter := by positivity
  have hlow : i.lower * (2 : ℚ) ^ i.quarter < i.center := mul_lt_mul_of_pos_right (by exact_mod_cast hlower) hquarter
  have hup : i.center < i.upper * (2 : ℚ) ^ i.quarter := mul_lt_mul_of_pos_right (by exact_mod_cast hupper) hquarter
  unfold Contains
  split_ifs
  · exact ⟨hlow.le, hup.le⟩
  · exact ⟨hlow, hup⟩

/-- A quarter of the last place is `a / b` steps of a grid. -/
structure InSteps (i : RoundingInterval) (step : Int) (a b : Nat) : Prop where
  /-- A quarter of the last place is not nothing. -/
  pos : 0 < a
  /-- The denominator is one. -/
  den_pos : 0 < b
  /-- The quarter, written both ways. -/
  scale : a * (10 : ℚ) ^ step = 2 ^ i.quarter * b

theorem inSteps_scaled (i : RoundingInterval) (step : Int) :
    i.InSteps step (Binary64.scaled (powerOfTen (-step)).1 (powerOfTen (-step)).2 i.quarter).1
      (Binary64.scaled (powerOfTen (-step)).1 (powerOfTen (-step)).2 i.quarter).2 := by
  obtain ⟨-, hq, hpower⟩ := powerOfTen_eq (-step)
  obtain ⟨hb, hratio⟩ := Binary64.scaled_eq (powerOfTen (-step)).1 hq i.quarter
  rw [hpower, zpow_neg] at hratio
  generalize Binary64.scaled (powerOfTen (-step)).1 (powerOfTen (-step)).2 i.quarter = p at hb hratio ⊢
  have hbq : (0 : ℚ) < p.2 := by exact_mod_cast hb
  have hunit : (0 : ℚ) < 10 ^ step := by positivity
  have hscale : p.1 * (10 : ℚ) ^ step = 2 ^ i.quarter * p.2 := by
    rw [div_eq_iff hbq.ne'] at hratio
    rw [hratio, inv_mul_eq_div, div_mul_eq_mul_div, div_mul_cancel₀ _ hunit.ne']
  have hpos : 0 < p.1 * (10 : ℚ) ^ step := by
    rw [hscale]
    positivity
  exact ⟨by exact_mod_cast (pos_iff_pos_of_mul_pos hpos).mpr hunit, hb, hscale⟩

namespace InSteps

variable {a b down : Nat}

theorem scale_mul (h : i.InSteps step a b) (k : Nat) : ((k * a : Nat) : ℚ) * 10 ^ step = k * 2 ^ i.quarter * b := by
  rw [Nat.cast_mul, mul_assoc, h.scale, mul_assoc]

-- both sides of a comparison are scaled by a step, and then by the denominator
theorem le_iff (h : i.InSteps step a b) (k l : Nat) :
    k * a ≤ l * b ↔ (k : ℚ) * 2 ^ i.quarter ≤ l * 10 ^ step := by
  have hunit : (0 : ℚ) < 10 ^ step := by positivity
  have hden : (0 : ℚ) < b := by exact_mod_cast h.den_pos
  rw [← Nat.cast_le (α := ℚ), ← mul_le_mul_iff_left₀ hunit, h.scale_mul, Nat.cast_mul l, mul_right_comm (l : ℚ),
    mul_le_mul_iff_left₀ hden]

theorem ge_iff (h : i.InSteps step a b) (k l : Nat) :
    l * b ≤ k * a ↔ (l : ℚ) * 10 ^ step ≤ k * 2 ^ i.quarter := by
  have hunit : (0 : ℚ) < 10 ^ step := by positivity
  have hden : (0 : ℚ) < b := by exact_mod_cast h.den_pos
  rw [← Nat.cast_le (α := ℚ), ← mul_le_mul_iff_left₀ hunit, h.scale_mul, Nat.cast_mul l, mul_right_comm (l : ℚ),
    mul_le_mul_iff_left₀ hden]

theorem lt_iff (h : i.InSteps step a b) (k l : Nat) :
    k * a < l * b ↔ (k : ℚ) * 2 ^ i.quarter < l * 10 ^ step := by
  rw [← not_le, h.ge_iff, not_le]

theorem gt_iff (h : i.InSteps step a b) (k l : Nat) :
    l * b < k * a ↔ (l : ℚ) * 10 ^ step < k * 2 ^ i.quarter := by
  rw [← not_le, h.le_iff, not_le]

/-- A point of the grid that is not above the number is in the interval if it is not below its lower end. -/
theorem contains_below_iff (h : i.InSteps step a b) (hupper : i.value < i.upper) (hdown : down * b ≤ i.value * a) :
    (if i.closed then i.lower * a ≤ down * b else i.lower * a < down * b) ↔ i.Contains (down * 10 ^ step) := by
  have huppera : i.value * a < i.upper * a := Nat.mul_lt_mul_of_pos_right hupper h.pos
  have hbelow := (h.gt_iff _ _).mp (hdown.trans_lt huppera)
  unfold Contains
  split_ifs
  · rw [h.le_iff]
    exact ⟨fun hlow => ⟨hlow, hbelow.le⟩, And.left⟩
  · rw [h.lt_iff]
    exact ⟨fun hlow => ⟨hlow, hbelow⟩, And.left⟩

/-- A point of the grid above the number is in the interval if it is not above its upper end. -/
theorem contains_above_iff (h : i.InSteps step a b) (hlower : i.lower < i.value)
    (hup : i.value * a < (down + 1) * b) :
    (if i.closed then (down + 1) * b ≤ i.upper * a else (down + 1) * b < i.upper * a) ↔
      i.Contains ((down + 1) * 10 ^ step) := by
  have hlowera : i.lower * a < i.value * a := Nat.mul_lt_mul_of_pos_right hlower h.pos
  have habove := (h.lt_iff _ _).mp (hlowera.trans hup)
  push_cast at habove
  unfold Contains
  split_ifs
  · rw [h.ge_iff]
    push_cast
    exact ⟨fun hhigh => ⟨habove.le, hhigh⟩, And.right⟩
  · rw [h.gt_iff]
    push_cast
    exact ⟨fun hhigh => ⟨habove, hhigh⟩, And.right⟩

/-- The lower neighbour is the nearer one if the number is less than half a step above it. -/
theorem nearer_iff (h : i.InSteps step a b) (hdown : down * b ≤ i.value * a) :
    2 * (i.value * a - down * b) < b ↔
      i.center - down * 10 ^ step < (down + 1) * 10 ^ step - i.center := by
  have htwice : 2 * (i.value * a - down * b) < b ↔ 2 * i.value * a < (2 * down + 1) * b := by
    have hexpand : (2 * down + 1) * b = 2 * (down * b) + b := by ring
    have hexpand' : 2 * i.value * a = 2 * (i.value * a) := by ring
    omega
  rw [htwice, h.lt_iff]
  push_cast
  unfold center
  constructor <;> intro hnear <;> linarith

end InSteps

/-- On a grid the two points next to the number are looked at. -/
theorem exists_neighbours (hlower : i.lower < i.value) (hupper : i.value < i.upper) (step : Int) :
    ∃ down : Nat, down * 10 ^ step ≤ i.center ∧ i.center < (down + 1) * 10 ^ step ∧
      (i.Contains (down * 10 ^ step) ∧
          (¬i.Contains ((down + 1) * 10 ^ step) ∨
            i.center - down * 10 ^ step < (down + 1) * 10 ^ step - i.center) ∧
          i.onGrid step = some ⟨down, step⟩ ∨
        (i.Contains (down * 10 ^ step) →
            (down + 1) * 10 ^ step - i.center ≤ i.center - down * 10 ^ step) ∧
          i.Contains ((down + 1) * 10 ^ step) ∧ i.onGrid step = some ⟨down + 1, step⟩ ∨
        ¬i.Contains (down * 10 ^ step) ∧ ¬i.Contains ((down + 1) * 10 ^ step) ∧ i.onGrid step = none) := by
  have h := i.inSteps_scaled step
  unfold onGrid
  dsimp only
  generalize Binary64.scaled (powerOfTen (-step)).1 (powerOfTen (-step)).2 i.quarter = p at h ⊢
  obtain ⟨a, b⟩ := p
  dsimp only at h ⊢
  have hdown : i.value * a / b * b ≤ i.value * a := Nat.div_mul_le_self _ _
  have hup : i.value * a < (i.value * a / b + 1) * b := by
    have := Nat.lt_div_mul_add (a := i.value * a) h.den_pos
    linarith
  generalize i.value * a / b = down at hdown hup ⊢
  -- the three tests that are made, said of the points themselves
  have hdownIn := h.contains_below_iff hupper hdown
  have hupIn := h.contains_above_iff hlower hup
  have hnear := h.nearer_iff hdown
  refine ⟨down, (h.ge_iff _ _).mp hdown, by exact_mod_cast (h.lt_iff _ _).mp hup, ?_⟩
  by_cases hchoice : i.Contains (down * 10 ^ step) ∧
      (¬i.Contains ((down + 1) * 10 ^ step) ∨ i.center - down * 10 ^ step < (down + 1) * 10 ^ step - i.center)
  · exact .inl ⟨hchoice.1, hchoice.2, if_pos (by rwa [hdownIn, hupIn, hnear])⟩
  · have hskip := hchoice
    rw [← hdownIn, ← hupIn, ← hnear] at hskip
    by_cases hother : i.Contains ((down + 1) * 10 ^ step)
    · refine .inr (.inl ⟨fun hin => ?_, hother, (if_neg hskip).trans (if_pos (hupIn.mpr hother))⟩)
      by_contra hfar
      exact hchoice ⟨hin, .inr (not_le.mp hfar)⟩
    · refine .inr (.inr ⟨fun hin => hchoice ⟨hin, .inl hother⟩, hother, ?_⟩)
      exact (if_neg hskip).trans (if_neg (mt hupIn.mp hother))

/-- What is found on a grid: the point nearest to the number, if there is a point of the grid in the interval. -/
theorem onGrid_spec (hlower : i.lower < i.value) (hupper : i.value < i.upper) (step : Int) :
    (∃ d, i.onGrid step = some ⟨d, step⟩ ∧ i.Contains (d * 10 ^ step) ∧
      ∀ c : Nat, i.Contains (c * 10 ^ step) → c ≠ d → Closer i.center (d * 10 ^ step) (c * 10 ^ step)) ∨
    i.onGrid step = none ∧ ∀ c : Nat, ¬i.Contains (c * 10 ^ step) := by
  have hunit : (0 : ℚ) < 10 ^ step := by positivity
  have hcenter := contains_center hlower hupper
  obtain ⟨down, hle, hlt, hcases⟩ := exists_neighbours hlower hupper step
  -- what lies beyond a neighbour is farther away, and if it is taken so is the neighbour
  have hbelow : ∀ c : Nat, c ≤ down → (c : ℚ) * 10 ^ step ≤ down * 10 ^ step := by
    intro c hc
    gcongr
  have habove : ∀ c : Nat, down < c → (down + 1 : ℚ) * 10 ^ step ≤ c * 10 ^ step := by
    intro c hc
    gcongr
    exact_mod_cast hc
  rcases hcases with ⟨hdown, hnot, he⟩ | ⟨hnear, hup, he⟩ | ⟨hdown, hup, he⟩
  · refine .inl ⟨down, he, hdown, ?_⟩
    intro c hc hne
    left
    rw [abs_of_nonpos (by linarith)]
    rcases Nat.lt_or_gt_of_ne hne with hlow | hhigh
    · have : (c : ℚ) * 10 ^ step < down * 10 ^ step := by gcongr
      rw [abs_of_nonpos (by linarith)]
      linarith
    · have := habove c hhigh
      have hfar := hnot.resolve_left (not_not_intro (hcenter.convex hc hlt.le this))
      rw [abs_of_nonneg (by linarith)]
      linarith
  · refine .inl ⟨down + 1, he, by exact_mod_cast hup, ?_⟩
    intro c hc hne
    push_cast
    unfold Closer
    rw [abs_of_nonneg (by linarith)]
    rcases Nat.lt_or_gt_of_ne hne with hlow | hhigh
    · have := hbelow c (Nat.le_of_lt_succ hlow)
      have hfar := hnear (hc.convex hcenter this hle)
      have hle' : (down + 1) * 10 ^ step - i.center ≤ -(c * 10 ^ step - i.center) := by linarith
      rw [abs_of_nonpos (by linarith)]
      rcases lt_or_eq_of_le hle' with hlt' | he'
      · exact .inl hlt'
      · exact .inr ⟨he', by linarith⟩
    · have : ((down + 1 : Nat) : ℚ) * 10 ^ step < c * 10 ^ step := by gcongr
      push_cast at this
      left
      rw [abs_of_nonneg (by linarith)]
      linarith
  · refine .inr ⟨he, ?_⟩
    intro c hc
    rcases Nat.lt_or_ge down c with hhigh | hlow
    · exact hup (hcenter.convex hc hlt.le (habove c hhigh))
    · exact hdown (hc.convex hcenter (hbelow c hlow) hle)

end RoundingInterval

namespace Binary64

variable {x : Binary64}

/-! ## The coarsest grid -/

theorem Normal.lower_lt (h : x.Normal) : x.interval.lower < x.interval.value := by
  have := h.le_significand
  unfold interval
  dsimp only
  split <;> omega

theorem value_lt_upper : x.interval.value < x.interval.upper := by
  show 4 * x.significand < 4 * x.significand + 2
  omega

theorem center_interval : x.interval.center = x.magnitude := by
  unfold RoundingInterval.center interval magnitude
  rw [zpow_sub₀ (by norm_num)]
  push_cast
  ring

theorem Normal.bounds_magnitude (h : x.Normal) :
    2 ^ 52 * 2 ^ x.exponent ≤ x.magnitude ∧ x.magnitude < 2 ^ 53 * 2 ^ x.exponent := by
  have hle : (2 : ℚ) ^ 52 ≤ x.significand := by exact_mod_cast h.le_significand
  have hlt : (x.significand : ℚ) < 2 ^ 53 := by exact_mod_cast h.significand_lt
  unfold magnitude
  constructor <;> gcongr

/-- The estimate of the number of decimal digits from the number of bits is right or one too small. -/
theorem digits_of_bits : ∀ l < 65, 10 ^ (l * 30103 / 100000) ≤ 2 ^ l ∧ 2 ^ (l + 1) ≤ 10 ^ (l * 30103 / 100000 + 2) := by
  decide

/-- The power of ten that the number of digits is decided at. -/
theorem magnitude10_cases (x : Binary64) {k : Nat}
    (hk : ((x.significand.log2 : Int) + x.exponent) * 30103 / 100000 + 1 = k) :
    x.magnitude < 10 ^ k ∧ x.magnitude10 = k ∨ 10 ^ k ≤ x.magnitude ∧ x.magnitude10 = (k + 1 : Nat) := by
  obtain ⟨-, hq, hpower⟩ := powerOfTen_eq k
  obtain ⟨hd, hscaled⟩ := scaled_eq x.significand Nat.one_pos x.exponent
  unfold magnitude10
  dsimp only
  rw [hk]
  generalize powerOfTen k = ten at hq hpower ⊢
  generalize scaled x.significand 1 x.exponent = s at hd hscaled ⊢
  have hqq : (0 : ℚ) < ten.2 := by exact_mod_cast hq
  have hdq : (0 : ℚ) < s.2 := by exact_mod_cast hd
  have hmagnitude : (s.1 : ℚ) / s.2 = x.magnitude := by rw [hscaled, Nat.cast_one, div_one, magnitude]
  have hlt : s.1 * ten.2 < ten.1 * s.2 ↔ x.magnitude < 10 ^ k := by
    rw [zpow_natCast] at hpower
    rw [← hmagnitude, ← hpower, div_lt_div_iff₀ hdq hqq]
    exact_mod_cast Iff.rfl
  split_ifs with hless
  · exact .inl ⟨hlt.mp hless, rfl⟩
  · exact .inr ⟨not_lt.mp (mt hlt.mpr hless), by push_cast; rfl⟩

/-- The number of digits before the point of a number that is at least one and has at most 65 bits before the point. -/
theorem Normal.magnitude10_eq (h : x.Normal) (hlow : -52 ≤ x.exponent) (hhigh : x.exponent ≤ 12) :
    ∃ k : Nat, x.magnitude10 = (k + 1 : Nat) ∧ k ≤ 20 ∧ 10 ^ k ≤ x.magnitude ∧ x.magnitude < 10 ^ (k + 1) := by
  obtain ⟨l, hl⟩ : ∃ l : Nat, x.exponent = l - 52 := ⟨(x.exponent + 52).toNat, by omega⟩
  have hlog : x.significand.log2 = 52 := by
    have hne : x.significand ≠ 0 := by have := h.le_significand; omega
    have hge := (Nat.le_log2 hne).mpr h.le_significand
    have hlt := (Nat.log2_lt hne).mpr h.significand_lt
    omega
  -- the leading bit is the bit `l`
  have hbits : (2 : ℚ) ^ l ≤ x.magnitude ∧ x.magnitude < 2 ^ (l + 1) := by
    have hplace : (2 : ℚ) ^ 52 * 2 ^ x.exponent = 2 ^ l := by
      rw [hl, zpow_sub₀ (by norm_num), zpow_natCast]
      norm_num
      ring
    have hplace' : (2 : ℚ) ^ 53 * 2 ^ x.exponent = 2 ^ (l + 1) := by rw [pow_succ (2 : ℚ) l, ← hplace]; ring
    rw [← hplace, ← hplace']
    exact h.bounds_magnitude
  obtain ⟨hle, hge⟩ := digits_of_bits l (by omega)
  have hten : (10 : ℚ) ^ (l * 30103 / 100000) ≤ x.magnitude := le_trans (by exact_mod_cast hle) hbits.1
  have hten' : x.magnitude < (10 : ℚ) ^ (l * 30103 / 100000 + 2) := lt_of_lt_of_le hbits.2 (by exact_mod_cast hge)
  have hguess : ((x.significand.log2 : Int) + x.exponent) * 30103 / 100000 + 1 =
      (l * 30103 / 100000 + 1 : Nat) := by
    rw [hlog]
    omega
  rcases x.magnitude10_cases hguess with ⟨hless, he⟩ | ⟨hmore, he⟩
  · exact ⟨_, he, by omega, hten, hless⟩
  · exact ⟨_, he, by omega, hmore, hten'⟩

/-! ## The first grid with a point -/

/-- The first of some indices at which something is found. -/
theorem findSome?_range_eq_some {α : Type} {f : Nat → Option α} {n : Nat} {a : α}
    (h : (List.range n).findSome? f = some a) : ∃ d < n, f d = some a ∧ ∀ c < d, f c = none := by
  induction n with
  | zero => simp at h
  | succ n ih =>
    rw [List.range_succ, List.findSome?_append, Option.or_eq_some_iff] at h
    rcases h with h | ⟨hnone, h⟩
    · obtain ⟨d, hd, hfound⟩ := ih h
      exact ⟨d, by omega, hfound⟩
    · refine ⟨n, by omega, by simpa using h, ?_⟩
      intro c hc
      exact List.findSome?_eq_none_iff.mp hnone c (List.mem_range.mpr hc)

/-- What lies strictly between the ends of an interval lies in it. -/
theorem Normal.contains_of_between (h : x.Normal) {r : ℚ} (hlow : (x.significand - x.roomBelow) * 2 ^ x.exponent < r)
    (hhigh : r < (x.significand + 1 / 2) * 2 ^ x.exponent) : x.interval.Contains r := by
  rw [h.contains_iff]
  split_ifs
  · exact ⟨hlow.le, hhigh.le⟩
  · exact ⟨hlow, hhigh⟩

theorem Normal.pos_of_contains (h : x.Normal) {r : ℚ} (hr : x.interval.Contains r) : 0 < r := by
  have hm : (2 : ℚ) ^ 52 ≤ x.significand := by exact_mod_cast h.le_significand
  have hroom := x.roomBelow_le
  have hlow : 0 < (x.significand - x.roomBelow) * 2 ^ x.exponent := mul_pos (by linarith) (by positivity)
  rw [h.contains_iff] at hr
  split_ifs at hr
  · exact hlow.trans_le hr.1
  · exact hlow.trans hr.1

/-- Seventeen digits are always enough: the grid is finer than the interval is wide. -/
theorem Normal.exists_seventeen (h : x.Normal) {step : Int} (hstep : 10 ^ 16 * 10 ^ step ≤ x.magnitude) :
    ∃ c : Nat, x.interval.Contains (c * 10 ^ step) := by
  obtain ⟨down, hle, hlt, -⟩ := x.interval.exists_neighbours h.lower_lt value_lt_upper step
  rw [center_interval] at hle hlt
  have hplace : (0 : ℚ) < 2 ^ x.exponent := by positivity
  have hroom := x.le_roomBelow
  by_contra hnone
  rw [not_exists] at hnone
  -- the neighbours would lie beyond the ends, and so farther apart than they are
  have hbelow : down * (10 : ℚ) ^ step ≤ (x.significand - x.roomBelow) * 2 ^ x.exponent := by
    by_contra hin
    refine hnone down (h.contains_of_between (not_le.mp hin) (hle.trans_lt ?_))
    unfold magnitude
    gcongr
    linarith
  have habove : (x.significand + 1 / 2 : ℚ) * 2 ^ x.exponent ≤ (down + 1) * 10 ^ step := by
    by_contra hin
    refine hnone (down + 1) (h.contains_of_between ?_ (by exact_mod_cast not_le.mp hin))
    push_cast
    refine lt_of_le_of_lt ?_ hlt
    unfold magnitude
    gcongr
    linarith
  have hwide : (1 / 2 + x.roomBelow) * 2 ^ x.exponent ≤ 10 ^ step := by linarith
  have htoowide : 10 ^ 16 * ((1 / 2 + x.roomBelow) * 2 ^ x.exponent) ≤ x.significand * (2 : ℚ) ^ x.exponent :=
    (mul_le_mul_of_nonneg_left hwide (by norm_num)).trans hstep
  rw [← mul_assoc, mul_le_mul_iff_left₀ hplace] at htoowide
  rcases eq_or_ne x.significand (2 ^ 52) with he | hne
  · rw [he] at htoowide
    push_cast at htoowide
    linarith
  · have hlt53 : (x.significand : ℚ) < 2 ^ 53 := by exact_mod_cast h.significand_lt
    rw [roomBelow_of_ne hne] at htoowide
    linarith

/-- The shortest decimal of a number with `k + 1` digits before the point. -/
structure IsShortest (x : Binary64) (k : Nat) (d : Nat) (step : Int) : Prop where
  le : 10 ^ k ≤ x.magnitude
  lt : x.magnitude < 10 ^ (k + 1)
  step_ge : (k : Int) - 16 ≤ step
  step_le : step ≤ k
  contains : x.interval.Contains (d * 10 ^ step)
  closest : ∀ c : Nat, x.interval.Contains (c * 10 ^ step) → c ≠ d → Closer x.magnitude (d * 10 ^ step) (c * 10 ^ step)
  coarsest : ∀ coarser : Int, step < coarser → coarser ≤ k → ∀ c : Nat, ¬x.interval.Contains (c * 10 ^ coarser)

theorem Normal.isShortest (h : x.Normal) (hlow : -52 ≤ x.exponent) (hhigh : x.exponent ≤ 12) :
    ∃ k ≤ 20, ∃ d step, x.shortest = ⟨d, step⟩ ∧ x.IsShortest k d step := by
  obtain ⟨k, hk, hle, hten, hten'⟩ := h.magnitude10_eq hlow hhigh
  have hspec := x.interval.onGrid_spec h.lower_lt value_lt_upper
  have hgrids : x.shortest =
      ((List.range 17).findSome? fun d : Nat => x.interval.onGrid ((k : Int) - d)).getD ⟨0, 0⟩ := by
    unfold shortest
    dsimp only
    rw [List.findSome?_map, hk]
    congr 2
    funext d
    simp
  have hfound : ∃ r, ((List.range 17).findSome? fun d : Nat => x.interval.onGrid ((k : Int) - d)) = some r := by
    rw [← Option.ne_none_iff_exists']
    intro hnone
    have hlast : x.interval.onGrid ((k : Int) - 16) = none := List.findSome?_eq_none_iff.mp hnone 16 (by decide)
    have hseventeen : (10 : ℚ) ^ 16 * 10 ^ ((k : Int) - 16) ≤ x.magnitude := by
      refine le_of_eq_of_le ?_ hten
      rw [← zpow_natCast (10 : ℚ) 16, ← zpow_natCast (10 : ℚ) k, ← zpow_add₀ (by norm_num)]
      congr 1
      omega
    obtain ⟨c, hc⟩ := h.exists_seventeen hseventeen
    rcases hspec (k - 16) with ⟨d, hsome, -⟩ | ⟨-, hempty⟩
    · rw [hlast] at hsome
      cases hsome
    · exact hempty c hc
  obtain ⟨r, hr⟩ := hfound
  obtain ⟨e, he, hgrid, hfirst⟩ := findSome?_range_eq_some hr
  rcases hspec (k - e) with ⟨d, hsome, hcontains, hclosest⟩ | ⟨hnone, -⟩
  · obtain rfl := Option.some.inj (hgrid.symm.trans hsome)
    rw [center_interval] at hclosest
    refine ⟨k, hle, d, k - e, by rw [hgrids, hr, Option.getD_some], hten, hten', by omega, by omega, hcontains,
      hclosest, ?_⟩
    intro coarser hlt hge c hc
    -- the grid was looked at before and nothing was found on it
    have hbefore := hfirst (k - coarser).toNat (by omega)
    have hindex : (k : Int) - ((k - coarser).toNat : Nat) = coarser := by omega
    rw [hindex] at hbefore
    rcases hspec coarser with ⟨d', hsome', -⟩ | ⟨-, hempty⟩
    · rw [hbefore] at hsome'
      cases hsome'
    · exact hempty c hc
  · rw [hnone] at hgrid
    cases hgrid

/-! ## Written out -/

/-- Digits with zeros behind them are the digits of a multiple. -/
theorem toDigits_mul_pow {d : Nat} (hd : d ≠ 0) (n : Nat) :
    Nat.toDigits 10 d ++ List.replicate n '0' = Nat.toDigits 10 (d * 10 ^ n) := by
  induction n with
  | zero => simp
  | succ n ih =>
    have hpos : 0 < d * 10 ^ n := Nat.mul_pos (Nat.pos_of_ne_zero hd) (Nat.pow_pos (by decide))
    have hzero : Nat.toDigits 10 0 = ['0'] := by decide
    rw [List.replicate_succ', ← List.append_assoc, ih, ← hzero, Nat.toDigits_append_toDigits (by decide) hpos (by decide)]
    congr 1
    ring

theorem positional_natural {d : Nat} (hd : d ≠ 0) (n : Nat) :
    (⟨d, n⟩ : Scaled10).positional = Nat.toDigits 10 (d * 10 ^ n) := by
  unfold Scaled10.positional
  simp only [Int.natCast_nonneg, if_true, Int.toNat_natCast]
  exact toDigits_mul_pow hd n

variable {i j : Int}

/-- How an integer is written. -/
theorem toString_int (i : Int) :
    toString i = String.ofList (if i < 0 then '-' :: Nat.toDigits 10 i.natAbs else Nat.toDigits 10 i.natAbs) := by
  apply String.toList_injective
  rw [Int.toString_eq_repr, String.toList_ofList]
  cases i with
  | ofNat n => exact Nat.toList_repr
  | negSucc n =>
    rw [if_pos (Int.negSucc_lt_zero n), Int.repr, String.toList_append, Nat.toList_repr]
    rfl

theorem toDigits_injective {m n : Nat} (h : Nat.toDigits 10 m = Nat.toDigits 10 n) : m = n := by
  have hvalue := congrArg (fun ds => Nat.ofDigitChars 10 ds 0) h
  simpa only [Nat.ofDigitChars_ten_toDigits] using hvalue

/-- An integer is known from how it is written. -/
theorem toString_int_injective (h : toString i = toString j) : i = j := by
  have hminus : ∀ n : Nat, '-' ∉ Nat.toDigits 10 n := by
    intro n hmem
    exact absurd (Nat.isDigit_of_mem_toDigits (by decide) (by decide) hmem) (by decide)
  rw [toString_int, toString_int, String.ofList_inj] at h
  by_cases hi : i < 0 <;> by_cases hj : j < 0
  · rw [if_pos hi, if_pos hj] at h
    have := toDigits_injective (List.cons.inj h).2
    omega
  · rw [if_pos hi, if_neg hj] at h
    exact absurd (h ▸ List.mem_cons_self) (hminus j.natAbs)
  · rw [if_neg hi, if_pos hj] at h
    exact absurd (h ▸ List.mem_cons_self) (hminus i.natAbs)
  · rw [if_neg hi, if_neg hj] at h
    have := toDigits_injective h
    omega

/-- The integer of a size that has the sign of another one. -/
def signed (i : Int) (n : Nat) : Int := if i < 0 then -n else n

theorem natAbs_signed (n : Nat) : (signed i n).natAbs = n := by
  unfold signed
  split <;> simp

theorem signed_lt_zero_iff {n : Nat} (hn : n ≠ 0) : signed i n < 0 ↔ i < 0 := by
  unfold signed
  split <;> omega

theorem ofInt_signed_iff (hi : i ≠ 0) (hsize : i.natAbs < 2 ^ 64) {n : Nat} (hn : n ≠ 0) :
    ofInt (signed i n) = ofInt i ↔ (ofInt i).interval.Contains n := by
  have hne : signed i n ≠ 0 := by
    rw [← Int.natAbs_ne_zero, natAbs_signed]
    exact hn
  rw [ofInt_eq_iff_contains hi hsize, natAbs_signed]
  exact ⟨fun h => h.2.2, fun h => ⟨hne, signed_lt_zero_iff hn, h⟩⟩

/-- What becomes the same number as an integer has its sign. -/
theorem eq_signed (hi : i ≠ 0) (hsize : i.natAbs < 2 ^ 64) (h : ofInt j = ofInt i) :
    j ≠ 0 ∧ j = signed i j.natAbs ∧ (ofInt i).interval.Contains j.natAbs := by
  obtain ⟨hj, hsign, hcontains⟩ := (ofInt_eq_iff_contains hi hsize).mp h
  refine ⟨hj, ?_, hcontains⟩
  unfold signed
  split <;> omega

/-- Among integers of one sign the distance is that of their sizes. -/
theorem abs_signed_sub {x : Binary64} (hsign : x.isNegative = decide (i < 0)) (n : Nat) :
    |(signed i n : ℚ) - x.value| = |(n : ℚ) - x.magnitude| := by
  unfold signed value
  rw [hsign]
  by_cases hneg : i < 0
  · rw [if_pos hneg, if_pos (by simpa using hneg)]
    push_cast
    rw [neg_sub_neg, abs_sub_comm]
  · rw [if_neg hneg, if_neg (by simpa using hneg), Int.cast_natCast]

/-! ## The shortest one -/

/-- Of two integers the one that is written for a number: the one that ends in more zeros, of two that end in as many
the nearer one, and of two that are as near the larger one. -/
inductive Preferred (v : ℚ) (i j : Int) : Prop
  | shorter {n : Nat} (hi : 10 ^ n ∣ i) (hj : ¬10 ^ n ∣ j) : Preferred v i j
  | closer (hzeros : ∀ n : Nat, 10 ^ n ∣ i ↔ 10 ^ n ∣ j)
    (hcloser : |i - v| < |j - v| ∨ |i - v| = |j - v| ∧ j.natAbs < i.natAbs) : Preferred v i j

theorem Preferred.asymm {v : ℚ} (h : Preferred v i j) : ¬Preferred v j i := by
  intro h'
  cases h with
  | @shorter n hi hj =>
    cases h' with
    | @shorter m hj' hi' =>
      -- the more zeros an integer ends in, the more powers of ten divide it
      rcases Nat.le_total n m with hnm | hmn
      · exact hj ((pow_dvd_pow 10 hnm).trans hj')
      · exact hi' ((pow_dvd_pow 10 hmn).trans hi)
    | closer hzeros => exact hj ((hzeros n).mpr hi)
  | closer hzeros hcloser =>
    cases h' with
    | @shorter m hj' hi' => exact hi' ((hzeros m).mpr hj')
    | closer _ hcloser' =>
      rcases hcloser with hlt | ⟨he, hlt⟩ <;> rcases hcloser' with hlt' | ⟨he', hlt'⟩
      · linarith
      · linarith
      · linarith
      · omega

/-- A power of ten that is not too large is made a number without loss. -/
theorem fewBits_ten_pow {n : Nat} (hn : n ≤ 21) : FewBits (10 ^ n) := by
  refine ⟨5 ^ n, n, ?_, ?_⟩
  · rw [← Nat.mul_pow]
  · exact lt_of_le_of_lt (Nat.pow_le_pow_right (by decide) hn) (by norm_num)

theorem ten_pow_dvd_iff {n : Nat} : (10 : Int) ^ n ∣ i ↔ 10 ^ n ∣ i.natAbs := by
  rw [← Int.natCast_dvd]
  push_cast
  exact Iff.rfl

/-- No integer that becomes the number ends in more zeros than the shortest decimal. -/
theorem IsShortest.not_dvd (hi : i ≠ 0) (hsize : i.natAbs < 2 ^ 64) {k d n c : Nat} (hk : k ≤ 20)
    (h : (ofInt i).IsShortest k d n) (hc : c ≠ 0) (hcontains : (ofInt i).interval.Contains c) : ¬10 ^ (n + 1) ∣ c := by
  obtain ⟨hx, hxsign⟩ := rounds_ofInt hi ((log2_le_of_lt_two_pow hsize).trans (by omega))
  rintro ⟨e, rfl⟩
  rcases Nat.lt_or_ge n k with hlt | hge
  · refine h.coarsest (n + 1 : Nat) (by omega) (by omega) e ?_
    rw [zpow_natCast, mul_comm]
    exact_mod_cast hcontains
  · -- then the next power of ten would become the number, though it is larger and keeps its value
    obtain rfl : n = k := Nat.le_antisymm (by exact_mod_cast h.step_le) hge
    have hle : 10 ^ (n + 1) ≤ 10 ^ (n + 1) * e := Nat.le_mul_of_pos_right _ (Nat.pos_of_ne_zero (right_ne_zero_of_mul hc))
    have hcenter := RoundingInterval.contains_center hx.normal.lower_lt (ofInt i).value_lt_upper
    rw [center_interval] at hcenter
    have hpower : (ofInt i).interval.Contains (10 ^ (n + 1) : Nat) := by
      refine hcenter.convex hcontains ?_ (by exact_mod_cast hle)
      push_cast
      exact h.lt.le
    have hlog := hx.log2_le hsize hpower
    have hne : 10 ^ (n + 1) ≠ 0 := by positivity
    have hsame := (ofInt_signed_iff hi hsize hne).mpr hpower
    have hvalue : (ofInt (signed i (10 ^ (n + 1)))).value = signed i (10 ^ (n + 1)) := by
      rw [value_ofInt_eq_iff (by rw [natAbs_signed]; omega), natAbs_signed]
      exact fewBits_ten_pow (by omega)
    rw [hsame, value_eq_iff (by rw [hxsign, decide_eq_decide, signed_lt_zero_iff hne]), natAbs_signed] at hvalue
    have := h.lt
    rw [hvalue] at this
    push_cast at this
    exact lt_irrefl _ this

/-- What is written for an integer of 64 bits is an integer that becomes the same number, and it is preferred to all
others that do. -/
theorem exists_preferred (hsize : i.natAbs < 2 ^ 64) :
    ∃ r : Int, (ofInt i).text = toString r ∧ ofInt r = ofInt i ∧
      ∀ j, ofInt j = ofInt i → j ≠ r → Preferred (ofInt i).value r j := by
  rcases eq_or_ne i 0 with rfl | hi
  · refine ⟨0, by decide, rfl, ?_⟩
    intro j hj hne
    exact absurd (isZero_ofInt_iff.mp (hj ▸ isZero_ofInt_iff.mpr rfl)) hne
  have hlog := log2_le_of_lt_two_pow hsize
  obtain ⟨hx, hxsign⟩ := rounds_ofInt hi (by omega)
  obtain ⟨k, hk, d, step, hshortest, h⟩ := hx.normal.isShortest
    (by rcases hx.exponent with he | ⟨he, -⟩ <;> omega) (by rcases hx.exponent with he | ⟨he, -⟩ <;> omega)
  -- the integer itself is a point of the grid of ones
  obtain ⟨n, rfl⟩ : ∃ n : Nat, step = n := by
    refine ⟨step.toNat, ?_⟩
    by_contra hneg
    refine h.coarsest 0 (by omega) (by omega) i.natAbs ?_
    simpa using contains_ofInt hi hsize
  have hcontains : (ofInt i).interval.Contains (d * 10 ^ n : Nat) := by
    have := h.contains
    rw [zpow_natCast] at this
    exact_mod_cast this
  have hne : d * 10 ^ n ≠ 0 := by exact_mod_cast (hx.normal.pos_of_contains hcontains).ne'
  refine ⟨signed i (d * 10 ^ n), ?_, (ofInt_signed_iff hi hsize hne).mpr hcontains, ?_⟩
  · unfold text
    rw [toString_int, natAbs_signed, hx.normal.isNaN, hx.normal.isFinite, hx.normal.isZero, hxsign, hshortest,
      positional_natural (left_ne_zero_of_mul hne)]
    simp [signed_lt_zero_iff hne]
  · intro j hj hjr
    obtain ⟨hj0, hjsigned, hjcontains⟩ := eq_signed hi hsize hj
    have hc0 : j.natAbs ≠ 0 := Int.natAbs_ne_zero.mpr hj0
    have hcr : j.natAbs ≠ d * 10 ^ n := fun he => hjr (he ▸ hjsigned)
    have hdvd : 10 ^ n ∣ d * 10 ^ n := Nat.dvd_mul_left _ _
    have hend := h.not_dvd hi hsize hk hne hcontains
    have hjend := h.not_dvd hi hsize hk hc0 hjcontains
    by_cases hjdvd : 10 ^ n ∣ j.natAbs
    · refine .closer ?_ ?_
      · intro m
        rw [ten_pow_dvd_iff, ten_pow_dvd_iff, natAbs_signed]
        rcases Nat.lt_or_ge n m with hmore | hless
        · have hpow : 10 ^ (n + 1) ∣ 10 ^ m := pow_dvd_pow 10 hmore
          exact iff_of_false (fun hm => hend (hpow.trans hm)) fun hm => hjend (hpow.trans hm)
        · have hpow : 10 ^ m ∣ 10 ^ n := pow_dvd_pow 10 hless
          exact iff_of_true (hpow.trans hdvd) (hpow.trans hjdvd)
      · obtain ⟨e, he⟩ := hjdvd
        rw [mul_comm] at he
        rw [hjsigned, natAbs_signed, natAbs_signed, abs_signed_sub hxsign, abs_signed_sub hxsign, he]
        have hclosest := h.closest e
        rw [zpow_natCast] at hclosest
        have hed : e ≠ d := fun h' => hcr (by rw [he, h'])
        have hcloser := hclosest (by rw [he] at hjcontains; exact_mod_cast hjcontains) hed
        unfold Closer at hcloser
        exact_mod_cast hcloser
    · exact .shorter (ten_pow_dvd_iff.mpr (by rwa [natAbs_signed])) (mt ten_pow_dvd_iff.mp hjdvd)

/-- An integer of 64 bits is written for the number it becomes exactly if it is preferred to all other integers that
become the same number. -/
theorem text_ofInt_eq_iff (hsize : i.natAbs < 2 ^ 64) :
    (ofInt i).text = toString i ↔ ∀ j, ofInt j = ofInt i → j ≠ i → Preferred (ofInt i).value i j := by
  obtain ⟨r, htext, hr, hpreferred⟩ := exists_preferred hsize
  rw [htext]
  constructor
  · intro he
    obtain rfl := toString_int_injective he
    exact hpreferred
  · intro h
    by_contra hne
    have hne' : r ≠ i := fun he => hne (congrArg toString he)
    exact (hpreferred i rfl hne'.symm).asymm (h r hr hne')

/-- What is made of an integer that does not fit into fifty-three bits is not smaller than two to that power. -/
theorem Rounds.le_magnitude {n : Nat} {x : Binary64} (h : Rounds n x) (hn : 2 ^ 53 ≤ n) : 2 ^ 53 ≤ x.magnitude := by
  have hn0 : n ≠ 0 := by omega
  have hlog : 53 ≤ n.log2 := (Nat.le_log2 hn0).mpr hn
  obtain ⟨q, hq, hmagnitude⟩ := h.nearest
  have hlow := (bounds_lastPlace hn0).1
  rw [← le_div_iff₀ lastPlace_pos] at hlow
  have hq52 : 2 ^ 52 ≤ q := hq.le (by exact_mod_cast hlow)
  have hplace : (2 : ℚ) ≤ lastPlace n := by
    unfold lastPlace
    calc (2 : ℚ) = 2 ^ (1 : Int) := by norm_num
      _ ≤ 2 ^ ((n.log2 : Int) - 52) := zpow_le_zpow_right₀ (by norm_num) (by omega)
  have hq52' : (2 : ℚ) ^ 52 ≤ q := by exact_mod_cast hq52
  calc (2 : ℚ) ^ 53 = 2 ^ 52 * 2 := by norm_num
    _ ≤ q * lastPlace n := by gcongr
    _ = x.magnitude := hmagnitude.symm

/-- An integer of at most fifty-three bits is what is written for the number it becomes. -/
theorem text_ofInt_of_le (hsize : i.natAbs ≤ 2 ^ 53) : (ofInt i).text = toString i := by
  rcases Nat.lt_or_eq_of_le hsize with hlt | hpower
  · have hvalue : ∀ j : Int, j.natAbs < 2 ^ 53 → (ofInt j).value = j := by
      intro j hj
      have hlog := log2_le_of_lt_two_pow (n := j.natAbs) (by omega)
      exact (value_ofInt_eq_iff (by omega)).mpr ⟨_, 0, by simp, hj⟩
    rw [text_ofInt_eq_iff (by omega)]
    intro j hj hne
    -- no other integer becomes the same number
    exfalso
    rcases eq_or_ne i 0 with rfl | hi
    · exact hne (isZero_ofInt_iff.mp (hj ▸ isZero_ofInt_iff.mpr rfl))
    have hmagnitude := hvalue i hlt
    rcases Nat.lt_or_ge j.natAbs (2 ^ 53) with hjlt | hjge
    · exact hne (by exact_mod_cast (hvalue j hjlt).symm.trans ((congrArg value hj).trans hmagnitude))
    · have hlog := log2_le_of_lt_two_pow (n := i.natAbs) (by omega)
      obtain ⟨hx, hxsign⟩ := rounds_ofInt hi (by omega)
      obtain ⟨hj0, -, hjcontains⟩ := eq_signed hi (by omega) hj
      have hjlog := hx.log2_le (by omega) hjcontains
      have hlarge := (rounds_ofInt hj0 (by omega)).1.le_magnitude hjge
      rw [hj, (value_eq_iff hxsign).mp hmagnitude] at hlarge
      exact absurd (by exact_mod_cast hlarge) (not_le.mpr hlt)
  · have hcases : i = 9007199254740992 ∨ i = -9007199254740992 := by omega
    rcases hcases with rfl | rfl
    · decide +kernel
    · decide +kernel

end Binary64

end ReportServer.Decimal
