import Mathlib.Algebra.Order.Ring.Abs
import ScenarioAudit.Number.Shortest
import ScenarioAudit.Proofs.Number.Rounding

/-! # The shortest digits read back

The digits that `shortestDecimal` finds read back as the number they were made from
(`ofDecimal_shortestDecimal`). The search stops at the first grid with a hit, so all that has to be
shown is that seventeen digits always suffice: their grid is finer than the spacing of the numbers
(`hit_seventeen`).
-/

namespace ScenarioAudit.Number

open Binary64

/-! ## The search -/

/-- One of the two neighbours on the grid of `count` digits reads back as `x`. -/
def Hit (x : Binary64) (num den : ℕ) (k : ℤ) (count : ℕ) : Prop :=
  ofDecimal false (gridNeighbours num den (k - count)).1 (k - count) = x ∨
    ofDecimal false ((gridNeighbours num den (k - count)).1 + 1) (k - count) = x

theorem shortestFrom_reads {x : Binary64} {num den : ℕ} {k : ℤ} {fuel count i : ℕ} (hi : i < fuel)
    (hit : Hit x num den k (count + i)) :
    ofDecimal false (shortestFrom x num den k fuel count).digits
      (shortestFrom x num den k fuel count).exponent = x := by
  induction fuel generalizing count i with
  | zero => exact absurd hi (Nat.not_lt_zero i)
  | succ fuel ih =>
    simp only [shortestFrom]
    split
    next hlow hhigh _ => exact beq_iff_eq.mp hhigh
    next hlow hhigh _ =>
      split
      · exact beq_iff_eq.mp hlow
      · exact beq_iff_eq.mp hhigh
    next hlow _ _ => exact beq_iff_eq.mp hlow
    next hlow hhigh => exact beq_iff_eq.mp hhigh
    next hlow hhigh =>
      have hne : i ≠ 0 := by
        rintro rfl
        rcases hit with hit | hit
        · exact absurd (beq_iff_eq.mpr hit) (by simp [hlow])
        · exact absurd (beq_iff_eq.mpr hit) (by simp [hhigh])
      have hcount : count + i = count + 1 + (i - 1) := by omega
      exact ih (i := i - 1) (by omega) (hcount ▸ hit)

/-! ## Seventeen digits -/

theorem ratio_value (m : ℕ) (e : ℤ) :
    0 < (ratio m e).2 ∧ ((ratio m e).1 : ℚ) / (ratio m e).2 = m * 2 ^ e := by
  rw [ratio]
  by_cases he : e < 0
  · have h2 : (2 : ℚ) ^ e = 1 / (Nat.pow 2 (-e).toNat : ℕ) := zpow_of_neg (b := 2) he
    rw [if_pos he, h2, mul_one_div]
    exact ⟨Nat.pow_pos two_pos, rfl⟩
  · have h2 : (2 : ℚ) ^ e = (Nat.pow 2 e.toNat : ℕ) := zpow_of_nonneg (b := 2) (by omega)
    rw [if_neg he, h2, Nat.cast_mul, Nat.cast_one, div_one]
    exact ⟨one_pos, rfl⟩

theorem gridNeighbours_bounds (num : ℕ) {den : ℕ} (hden : 0 < den) (g : ℤ) :
    ((gridNeighbours num den g).1 : ℚ) * 10 ^ g ≤ num / den ∧
      (num : ℚ) / den < ((gridNeighbours num den g).1 + 1) * 10 ^ g := by
  have key (n d : ℕ) (hd : 0 < d) : ((n / d : ℕ) : ℚ) ≤ n / d ∧ (n : ℚ) / d < (n / d : ℕ) + 1 := by
    have hfloor : ⌊(n : ℚ) / d⌋₊ = n / d := Nat.floor_div_eq_div n d
    rw [← hfloor]
    exact ⟨Nat.floor_le (by positivity), Nat.lt_floor_add_one _⟩
  rw [← le_div_iff₀ (ten_zpow_pos g), ← div_lt_iff₀ (ten_zpow_pos g)]
  by_cases hg : g < 0
  · have h10 : (10 : ℚ) ^ g = 1 / (Nat.pow 10 (-g).toNat : ℕ) := zpow_of_neg (b := 10) hg
    have hvalue : (num : ℚ) / den / 10 ^ g = (num * Nat.pow 10 (-g).toNat : ℕ) / den := by
      rw [h10, div_div_eq_mul_div, div_one, Nat.cast_mul, div_mul_eq_mul_div]
    simp only [gridNeighbours, if_pos hg, hvalue]
    exact key _ _ hden
  · have h10 : (10 : ℚ) ^ g = (Nat.pow 10 g.toNat : ℕ) := zpow_of_nonneg (b := 10) (by omega)
    have hvalue : (num : ℚ) / den / 10 ^ g = num / (den * Nat.pow 10 g.toNat : ℕ) := by
      rw [h10, Nat.cast_mul, div_div]
    simp only [gridNeighbours, if_neg hg, hvalue]
    exact key _ _ (Nat.mul_pos hden (Nat.pow_pos (by decide)))

/-- On a grid finer than the spacing, the nearer of two neighbours is within half a spacing. -/
theorem within_half {x spacing step low : ℚ} (hstep : step * 10 ^ 16 ≤ x)
    (hx : x < 9007199254740992 * spacing) (hlow : low ≤ x) (hhigh : x < low + step) :
    (x - spacing / 2 < low ∧ low < x + spacing / 2) ∨
      (x - spacing / 2 < low + step ∧ low + step < x + spacing / 2) := by
  by_cases hnearer : x - low ≤ step / 2
  · left
    constructor <;> linarith
  · right
    constructor <;> linarith

theorem within_half_edge {x spacing step low : ℚ} (hstep : step * 10 ^ 16 ≤ x)
    (hx : x = 4503599627370496 * spacing) (_ : 0 < spacing) (hlow : low ≤ x) (hhigh : x < low + step) :
    x - spacing / 2 < low + step ∧ low + step < x + spacing / 2 := by
  constructor <;> linarith

/-- Where the grid of seventeen digits has its first digit at the value, one of the two neighbours
rounds to it. -/
theorem hit_seventeen {m : ℕ} {e k : ℤ} (h : Canonical m e) (hm : m ≠ 0)
    (hk : (10 : ℚ) ^ (k - 1) ≤ m * 2 ^ e) :
    Hit (.finite false m e) (ratio m e).1 (ratio m e).2 k 17 := by
  obtain ⟨hden, hvalue⟩ := ratio_value m e
  have hbounds := gridNeighbours_bounds (ratio m e).1 hden (k - (17 : ℕ))
  have hgrid : (10 : ℚ) ^ (k - (17 : ℕ)) * 10 ^ 16 ≤ m * 2 ^ e := by
    refine le_trans (le_of_eq ?_) hk
    rw [← zpow_natCast, ← zpow_add₀ (by norm_num)]
    congr 1
    push_cast
    ring
  have hpow := two_zpow_pos e
  have hstep := ten_zpow_pos (k - (17 : ℕ))
  rw [Hit]
  rw [hvalue, add_mul, one_mul] at hbounds
  -- From here on `q` steps of the grid lie at or below the value and `q + 1` above it.
  generalize (gridNeighbours (ratio m e).1 (ratio m e).2 (k - (17 : ℕ))).1 = q at *
  obtain ⟨hlow, hhigh⟩ := hbounds
  have hq : q ≠ 0 := by
    rintro rfl
    rw [Nat.cast_zero, zero_mul, zero_add] at hhigh
    have : (10 : ℚ) ^ (k - (17 : ℕ)) ≤ 10 ^ (k - (17 : ℕ)) * 10 ^ 16 :=
      le_mul_of_one_le_right hstep.le (by norm_num)
    exact absurd (this.trans hgrid) (not_le.mpr hhigh)
  have hbelow : ((m : ℚ) - 1 / 2) * 2 ^ e = m * 2 ^ e - 2 ^ e / 2 := by ring
  have habove : ((m : ℚ) + 1 / 2) * 2 ^ e = m * 2 ^ e + 2 ^ e / 2 := by ring
  have hnext : ((q + 1 : ℕ) : ℚ) * 10 ^ (k - (17 : ℕ)) = q * 10 ^ (k - (17 : ℕ)) + 10 ^ (k - (17 : ℕ)) := by
    rw [Nat.cast_succ, add_mul, one_mul]
  -- At the edge of a binade the numbers below lie closer together, so there the upper neighbour is taken.
  by_cases hedge : m = leastNormal
  · have hx : (m : ℚ) * 2 ^ e = 4503599627370496 * 2 ^ e := by
      rw [hedge]
      norm_num [leastNormal]
    obtain ⟨hleft, hright⟩ := within_half_edge hgrid hx hpow hlow hhigh
    right
    apply ofDecimal_near false h hm (Nat.succ_ne_zero q)
    · rwa [hbelow, hnext]
    · rwa [habove, hnext]
    · exact fun _ => hnext ▸ hhigh.le
  · have hx : (m : ℚ) * 2 ^ e < 9007199254740992 * 2 ^ e := by
      have : (m : ℚ) < 9007199254740992 := by exact_mod_cast h.mantissa_lt
      exact mul_lt_mul_of_pos_right this hpow
    rcases within_half hgrid hx hlow hhigh with ⟨hleft, hright⟩ | ⟨hleft, hright⟩
    · left
      apply ofDecimal_near false h hm hq
      · rwa [hbelow]
      · rwa [habove]
      · exact fun heq => absurd heq hedge
    · right
      apply ofDecimal_near false h hm (Nat.succ_ne_zero q)
      · rwa [hbelow, hnext]
      · rwa [habove, hnext]
      · exact fun heq => absurd heq hedge

/-! ## The first digit -/

theorem decimalMagnitude_le {num den : ℕ} (hden : 0 < den) (fuel : ℕ) {k : ℤ}
    (hk : (10 : ℚ) ^ (k - 1) ≤ num / den) :
    (10 : ℚ) ^ (decimalMagnitude num den fuel k - 1) ≤ num / den := by
  have hden' : (0 : ℚ) < den := by exact_mod_cast hden
  induction fuel generalizing k with
  | zero => exact hk
  | succ fuel ih =>
    rw [decimalMagnitude]
    by_cases hneg : k < 0
    · have h10 : (10 : ℚ) ^ k = 1 / (Nat.pow 10 (-k).toNat : ℕ) := zpow_of_neg (b := 10) hneg
      have hpow : (0 : ℚ) < (Nat.pow 10 (-k).toNat : ℕ) := by exact_mod_cast Nat.pow_pos (by decide)
      simp only [if_pos hneg]
      by_cases hbelow : num * Nat.pow 10 (-k).toNat < den
      · rwa [if_pos hbelow]
      · rw [if_neg hbelow]
        apply ih
        rw [add_sub_cancel_right, h10, div_le_div_iff₀ hpow hden', one_mul]
        exact_mod_cast not_lt.mp hbelow
    · have h10 : (10 : ℚ) ^ k = (Nat.pow 10 k.toNat : ℕ) := zpow_of_nonneg (b := 10) (by omega)
      simp only [if_neg hneg]
      by_cases hbelow : num < den * Nat.pow 10 k.toNat
      · rwa [if_pos hbelow]
      · rw [if_neg hbelow]
        apply ih
        rw [add_sub_cancel_right, h10, le_div_iff₀ hden', mul_comm]
        exact_mod_cast not_lt.mp hbelow

theorem ten_zpow_le_two_zpow {p q : ℤ} (h : 0 ≤ p ∧ 10 * p ≤ 3 * q ∨ p < 0 ∧ 93 * p ≤ 28 * q) :
    (10 : ℚ) ^ p ≤ 2 ^ q := by
  rcases h with ⟨hp, hpq⟩ | ⟨hp, hpq⟩
  · apply le_of_pow_le_pow_left₀ (n := 3) (by decide) (two_zpow_pos q).le
    obtain ⟨n, rfl⟩ : ∃ n : ℕ, p = n := ⟨p.toNat, by omega⟩
    calc ((10 : ℚ) ^ (n : ℤ)) ^ 3 = (10 ^ 3) ^ n := by rw [zpow_natCast, ← pow_mul, ← pow_mul, mul_comm]
      _ ≤ (2 ^ 10) ^ n := pow_le_pow_left₀ (by norm_num) (by norm_num) n
      _ = 2 ^ (10 * (n : ℤ)) := by rw [← pow_mul, ← zpow_natCast]; push_cast; rfl
      _ ≤ 2 ^ (3 * q) := zpow_le_zpow_right₀ one_le_two hpq
      _ = (2 ^ q) ^ 3 := by rw [mul_comm, zpow_mul]; rfl
  · apply le_of_pow_le_pow_left₀ (n := 28) (by decide) (two_zpow_pos q).le
    obtain ⟨n, rfl⟩ : ∃ n : ℕ, p = -(n : ℤ) := ⟨(-p).toNat, by omega⟩
    calc ((10 : ℚ) ^ (-(n : ℤ))) ^ 28 = ((10 ^ 28) ^ n)⁻¹ := by
          rw [zpow_neg, zpow_natCast, inv_pow, ← pow_mul, ← pow_mul, mul_comm]
      _ ≤ ((2 ^ 93) ^ n)⁻¹ :=
        inv_anti₀ (by positivity) (pow_le_pow_left₀ (by norm_num) (by norm_num) n)
      _ = 2 ^ (93 * -(n : ℤ)) := by
        rw [← pow_mul, ← zpow_natCast, ← zpow_neg]
        push_cast
        rw [mul_neg]
      _ ≤ 2 ^ (28 * q) := zpow_le_zpow_right₀ one_le_two hpq
      _ = (2 ^ q) ^ 28 := by rw [mul_comm, zpow_mul]; rfl

theorem start_le {m : ℕ} {e : ℤ} (h : Canonical m e) (hm : m ≠ 0) :
    (10 : ℚ) ^ (((Nat.log2 (ratio m e).1 : ℤ) - Nat.log2 (ratio m e).2) * 30103 / 100000 - 1 - 1) ≤
      m * 2 ^ e := by
  obtain ⟨hden, hvalue⟩ := ratio_value m e
  have hmpos : (0 : ℚ) < m := by exact_mod_cast Nat.pos_of_ne_zero hm
  have hpos : (0 : ℚ) < m * 2 ^ e := mul_pos hmpos (two_zpow_pos e)
  have hnum : (ratio m e).1 ≠ 0 := by
    rintro hzero
    rw [hzero, Nat.cast_zero, zero_div] at hvalue
    exact hpos.ne hvalue
  have hlog := log_ratio hnum hden
  rw [hvalue] at hlog
  have hle := Int.zpow_log_le_self (b := 2) one_lt_two hpos
  -- The format bounds the logarithm, and within its bounds the factor of the search is precise enough.
  have hupper : Int.log 2 ((m : ℚ) * 2 ^ e) < 1024 := by
    apply (Int.lt_zpow_iff_log_lt (b := 2) one_lt_two hpos).mp
    have hm' : (m : ℚ) < 2 ^ (53 : ℤ) := by exact_mod_cast h.mantissa_lt
    calc (m : ℚ) * 2 ^ e < 2 ^ (53 : ℤ) * 2 ^ e := mul_lt_mul_of_pos_right hm' (two_zpow_pos e)
      _ ≤ 2 ^ (53 : ℤ) * 2 ^ greatestExponent :=
        mul_le_mul_of_nonneg_left (zpow_le_zpow_right₀ one_le_two h.le_greatest) (two_zpow_pos _).le
      _ = 2 ^ (1024 : ℤ) := by
        rw [← zpow_add₀ two_ne_zero]
        rfl
  have hlower : -1074 ≤ Int.log 2 ((m : ℚ) * 2 ^ e) := by
    apply (Int.zpow_le_iff_le_log (b := 2) one_lt_two hpos).mp
    have hm' : (1 : ℚ) ≤ m := by exact_mod_cast Nat.one_le_iff_ne_zero.mpr hm
    calc (2 : ℚ) ^ (-1074 : ℤ) ≤ 2 ^ e := zpow_le_zpow_right₀ one_le_two h.least_le
      _ ≤ m * 2 ^ e := le_mul_of_one_le_left (two_zpow_pos e).le hm'
  refine le_trans (ten_zpow_le_two_zpow ?_) hle
  generalize (Nat.log2 (ratio m e).1 : ℤ) - Nat.log2 (ratio m e).2 = bits at *
  split at hlog <;> omega

/-! ## Reading back -/

theorem trim_value (fuel : ℕ) (d : Decimal) :
    ((d.trim fuel).digits : ℚ) * 10 ^ (d.trim fuel).exponent = d.digits * 10 ^ d.exponent := by
  induction fuel generalizing d with
  | zero => rfl
  | succ fuel ih =>
    rw [Decimal.trim]
    split
    next hzero =>
      have hdigits : (d.digits : ℚ) = (d.digits / 10 : ℕ) * 10 := by
        exact_mod_cast (Nat.div_mul_cancel (Nat.dvd_of_mod_eq_zero hzero.2)).symm
      rw [ih, zpow_add_one₀ (by norm_num), hdigits]
      ring
    next => rfl

theorem ofRational_sign {r : ℚ} {m : ℕ} {e : ℤ} (negative : Bool)
    (h : ofRational false r = .finite false m e) : ofRational negative r = .finite negative m e := by
  simp only [ofRational] at h ⊢
  generalize (if nearest (r / 2 ^ spacingAt r) = 2 * leastNormal then (leastNormal, spacingAt r + 1)
    else (nearest (r / 2 ^ spacingAt r), spacingAt r)) = rounded at *
  by_cases hbig : greatestExponent < rounded.2
  · rw [if_pos hbig] at h
    cases h
  · rw [if_neg hbig] at h ⊢
    cases h
    rfl

theorem ofDecimal_sign {digits m : ℕ} {exponent e : ℤ} (negative : Bool)
    (h : ofDecimal false digits exponent = .finite false m e) :
    ofDecimal negative digits exponent = .finite negative m e := by
  by_cases hdigits : digits = 0
  · rw [ofDecimal, if_pos hdigits, zero] at h ⊢
    cases h
    rfl
  · rw [ofDecimal_eq _ hdigits] at h ⊢
    by_cases hhuge : 400 < Int.log 10 ((digits : ℚ) * 10 ^ exponent) + 1
    · rw [if_pos hhuge] at h
      cases h
    by_cases htiny : Int.log 10 ((digits : ℚ) * 10 ^ exponent) + 1 < -400
    · rw [if_neg hhuge, if_pos htiny, zero] at h ⊢
      cases h
      rfl
    · rw [if_neg hhuge, if_neg htiny] at h ⊢
      exact ofRational_sign negative h

/-- **The shortest digits of a number read back as that number.** -/
theorem ofDecimal_shortestDecimal {m : ℕ} {e : ℤ} (negative : Bool) (h : Canonical m e) (hm : m ≠ 0) :
    ofDecimal negative (shortestDecimal m e).digits (shortestDecimal m e).exponent =
      .finite negative m e := by
  apply ofDecimal_sign
  obtain ⟨hden, hvalue⟩ := ratio_value m e
  have hk := decimalMagnitude_le hden 4 (hvalue.symm ▸ start_le h hm)
  rw [hvalue] at hk
  simp only [shortestDecimal, if_neg hm]
  rw [ofDecimal_congr false (trim_value 20 _)]
  exact shortestFrom_reads (i := 16) (by decide) (hit_seventeen h hm hk)

end ScenarioAudit.Number
