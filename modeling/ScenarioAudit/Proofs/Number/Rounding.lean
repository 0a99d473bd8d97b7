import Mathlib.Algebra.Order.Floor.Semifield
import Mathlib.Data.Int.Log
import Mathlib.Data.Rat.Floor
import Mathlib.Tactic.FieldSimp
import Mathlib.Tactic.Linarith
import Mathlib.Tactic.NormNum
import Mathlib.Tactic.Positivity
import Mathlib.Tactic.Ring
import ScenarioAudit.Number.Binary64

/-! # Rounding depends on the value alone

`ofRatio` and `ofDecimal` compute with numerators, denominators and powers of ten. Here both are
tied to one rational number each (`ofRatio_eq`, `ofDecimal_eq`), so that two spellings of one value
round alike (`ofDecimal_congr`), and a value closer to a number than half its spacing rounds to that
number (`ofRational_near`).
-/

namespace ScenarioAudit.Number.Binary64

/-! ## Rounding to a whole number -/

/-- The whole number nearest to a non-negative rational, a tie to the even neighbour. -/
def nearest (x : ℚ) : ℕ :=
  let q := ⌊x⌋₊
  if x - q < 1 / 2 then q
  else if 1 / 2 < x - q then q + 1
  else if q % 2 = 0 then q
  else q + 1

theorem roundQuotient_eq (n : ℕ) {d : ℕ} (hd : 0 < d) : roundQuotient n d = nearest (n / d) := by
  have hd' : (0 : ℚ) < d := by exact_mod_cast hd
  have hsplit : (n : ℚ) = d * (n / d : ℕ) + (n % d : ℕ) := by exact_mod_cast (Nat.div_add_mod n d).symm
  have hfrac : (n : ℚ) / d - (n / d : ℕ) = (n % d : ℕ) / d := by
    rw [eq_div_iff hd'.ne', sub_mul, div_mul_cancel₀ _ hd'.ne']
    linarith
  have hlow : (n : ℚ) / d - (n / d : ℕ) < 1 / 2 ↔ 2 * (n % d) < d := by
    rw [hfrac, div_lt_div_iff₀ hd' two_pos, one_mul, mul_comm]
    exact_mod_cast Iff.rfl
  have hhigh : 1 / 2 < (n : ℚ) / d - (n / d : ℕ) ↔ d < 2 * (n % d) := by
    rw [hfrac, div_lt_div_iff₀ two_pos hd', one_mul, mul_comm]
    exact_mod_cast Iff.rfl
  simp only [roundQuotient, nearest, Nat.floor_div_eq_div, hlow, hhigh]

/-- Less than half away from a whole number. -/
theorem nearest_eq {x : ℚ} {m : ℕ} (hx : 0 ≤ x) (hlow : (m : ℚ) - 1 / 2 < x) (hhigh : x < m + 1 / 2) :
    nearest x = m := by
  have hfloor := Nat.floor_le hx
  have hnext := Nat.lt_floor_add_one x
  have hcases : ⌊x⌋₊ = m ∨ ⌊x⌋₊ + 1 = m := by
    have h1 : (⌊x⌋₊ : ℚ) < m + 1 := by linarith
    have h2 : (m : ℚ) < ⌊x⌋₊ + 2 := by linarith
    have h1' : ⌊x⌋₊ < m + 1 := by exact_mod_cast h1
    have h2' : m < ⌊x⌋₊ + 2 := by exact_mod_cast h2
    omega
  rcases hcases with h | h
  · simp only [nearest, h]
    rw [if_pos (by linarith)]
  · have hm : (m : ℚ) = ⌊x⌋₊ + 1 := by exact_mod_cast h.symm
    simp only [nearest]
    rw [if_neg (by linarith), if_pos (by linarith), h]

/-! ## Rounding a rational -/

/-- The power of two that is the spacing at a positive rational. -/
def spacingAt (r : ℚ) : ℤ :=
  max (Int.log 2 r - 52) leastExponent

/-- The number nearest to a positive rational. -/
def ofRational (negative : Bool) (r : ℚ) : Binary64 :=
  let e := spacingAt r
  let m := nearest (r / 2 ^ e)
  let (m, e) := if m = 2 * leastNormal then (leastNormal, e + 1) else (m, e)
  if greatestExponent < e then .infinite negative else .finite negative m e

theorem two_zpow_pos (k : ℤ) : (0 : ℚ) < 2 ^ k :=
  zpow_pos two_pos k

theorem ten_zpow_pos (k : ℤ) : (0 : ℚ) < 10 ^ k :=
  zpow_pos (by norm_num) k

/-- A base scaled by a power whose exponent may have either sign. -/
theorem zpow_of_neg {b : ℕ} {k : ℤ} (hk : k < 0) : ((b : ℚ) ^ k) = 1 / (Nat.pow b (-k).toNat : ℕ) := by
  obtain ⟨n, rfl⟩ : ∃ n : ℕ, k = -(n : ℤ) := ⟨(-k).toNat, by omega⟩
  rw [neg_neg, Int.toNat_natCast, zpow_neg, zpow_natCast, one_div]
  exact congrArg _ (Nat.cast_pow b n).symm

theorem zpow_of_nonneg {b : ℕ} {k : ℤ} (hk : 0 ≤ k) : ((b : ℚ) ^ k) = (Nat.pow b k.toNat : ℕ) := by
  obtain ⟨n, rfl⟩ : ∃ n : ℕ, k = n := ⟨k.toNat, by omega⟩
  rw [Int.toNat_natCast, zpow_natCast]
  exact (Nat.cast_pow b n).symm

theorem atLeastPow_iff {num den : ℕ} (hden : 0 < den) (k : ℤ) :
    atLeastPow num den k = true ↔ (2 : ℚ) ^ k ≤ num / den := by
  have hden' : (0 : ℚ) < den := by exact_mod_cast hden
  rw [atLeastPow, le_div_iff₀ hden']
  by_cases hk : k < 0
  · have hpow : (0 : ℚ) < (Nat.pow 2 (-k).toNat : ℕ) := by exact_mod_cast Nat.pow_pos two_pos
    have h2 : (2 : ℚ) ^ k = 1 / (Nat.pow 2 (-k).toNat : ℕ) := zpow_of_neg (b := 2) hk
    rw [if_pos hk, decide_eq_true_eq, h2, one_div_mul_eq_div, div_le_iff₀ hpow]
    exact_mod_cast Iff.rfl
  · have h2 : (2 : ℚ) ^ k = (Nat.pow 2 k.toNat : ℕ) := zpow_of_nonneg (b := 2) (by omega)
    rw [if_neg hk, decide_eq_true_eq, h2, mul_comm]
    exact_mod_cast Iff.rfl

theorem roundAt_eq (num : ℕ) {den : ℕ} (hden : 0 < den) (e : ℤ) :
    roundAt num den e = nearest (num / den / 2 ^ e) := by
  rw [roundAt]
  by_cases he : e < 0
  · have h2 : (2 : ℚ) ^ e = 1 / (Nat.pow 2 (-e).toNat : ℕ) := zpow_of_neg (b := 2) he
    rw [if_pos he, roundQuotient_eq _ hden, h2, div_div_eq_mul_div, div_one, Nat.cast_mul, div_mul_eq_mul_div]
  · have h2 : (2 : ℚ) ^ e = (Nat.pow 2 e.toNat : ℕ) := zpow_of_nonneg (b := 2) (by omega)
    have hscaled : 0 < den * Nat.pow 2 e.toNat := Nat.mul_pos hden (Nat.pow_pos two_pos)
    rw [if_neg he, roundQuotient_eq _ hscaled, h2, Nat.cast_mul, div_div]

/-- The exponents of numerator and denominator give the binade up to one step. -/
theorem log_ratio {num den : ℕ} (hnum : num ≠ 0) (hden : 0 < den) :
    Int.log 2 ((num : ℚ) / den) =
      if atLeastPow num den ((Nat.log2 num : ℤ) - Nat.log2 den) then (Nat.log2 num : ℤ) - Nat.log2 den
      else (Nat.log2 num : ℤ) - Nat.log2 den - 1 := by
  have hden' : (0 : ℚ) < den := by exact_mod_cast hden
  have hr : (0 : ℚ) < num / den := div_pos (by exact_mod_cast Nat.pos_of_ne_zero hnum) hden'
  have hnlow : (2 : ℚ) ^ (Nat.log2 num : ℤ) ≤ num := by
    rw [zpow_natCast]
    exact_mod_cast Nat.log2_self_le hnum
  have hnhigh : (num : ℚ) < 2 ^ ((Nat.log2 num : ℤ) + 1) := by
    exact_mod_cast Nat.lt_log2_self (n := num)
  have hdlow : (2 : ℚ) ^ (Nat.log2 den : ℤ) ≤ den := by
    rw [zpow_natCast]
    exact_mod_cast Nat.log2_self_le hden.ne'
  have hdhigh : (den : ℚ) < 2 ^ ((Nat.log2 den : ℤ) + 1) := by
    exact_mod_cast Nat.lt_log2_self (n := den)
  generalize (Nat.log2 num : ℤ) = a at *
  generalize (Nat.log2 den : ℤ) = b at *
  have hlow : (2 : ℚ) ^ (a - b - 1) ≤ num / den := by
    rw [le_div_iff₀ hden']
    calc (2 : ℚ) ^ (a - b - 1) * den ≤ 2 ^ (a - b - 1) * 2 ^ (b + 1) :=
          mul_le_mul_of_nonneg_left hdhigh.le (two_zpow_pos _).le
      _ = 2 ^ a := by rw [← zpow_add₀ two_ne_zero]; congr 1; ring
      _ ≤ num := hnlow
  have hhigh : (num : ℚ) / den < 2 ^ (a - b + 1) := by
    rw [div_lt_iff₀ hden']
    calc (num : ℚ) < 2 ^ (a + 1) := hnhigh
      _ = 2 ^ (a - b + 1) * 2 ^ b := by rw [← zpow_add₀ two_ne_zero]; congr 1; ring
      _ ≤ 2 ^ (a - b + 1) * den := mul_le_mul_of_nonneg_left hdlow (two_zpow_pos _).le
  have hge := (Int.zpow_le_iff_le_log (b := 2) one_lt_two hr).mp hlow
  have hlt := (Int.lt_zpow_iff_log_lt (b := 2) one_lt_two hr).mp hhigh
  by_cases h : atLeastPow num den (a - b)
  · have := (Int.zpow_le_iff_le_log (b := 2) one_lt_two hr).mp ((atLeastPow_iff hden _).mp h)
    rw [if_pos h]
    omega
  · have hlt' : (num : ℚ) / den < 2 ^ (a - b) := not_le.mp fun hle => h ((atLeastPow_iff hden _).mpr hle)
    have := (Int.lt_zpow_iff_log_lt (b := 2) one_lt_two hr).mp hlt'
    rw [if_neg h]
    omega

theorem ofRatio_eq (negative : Bool) {num den : ℕ} (hnum : num ≠ 0) (hden : 0 < den) :
    ofRatio negative num den = ofRational negative (num / den) := by
  have hspacing : max (if atLeastPow num den ((Nat.log2 num : ℤ) - Nat.log2 den - 52 + 52)
      then (Nat.log2 num : ℤ) - Nat.log2 den - 52 else (Nat.log2 num : ℤ) - Nat.log2 den - 52 - 1)
        leastExponent = spacingAt ((num : ℚ) / den) := by
    rw [spacingAt, log_ratio hnum hden, sub_add_cancel]
    split
    · rfl
    · congr 1
      ring
  simp only [ofRatio, if_neg hnum, hspacing, roundAt_eq num hden, ofRational]

/-! ## Canonical numbers -/

/-- A mantissa with an exponent of the format: all 53 bits are used unless the spacing is the
smallest. -/
structure Canonical (m : ℕ) (e : ℤ) : Prop where
  mantissa_lt : m < 2 * leastNormal
  normal : leastNormal ≤ m ∨ e = leastExponent
  least_le : leastExponent ≤ e
  le_greatest : e ≤ greatestExponent

/-- A value less than half a spacing away from a number rounds to it. Below the least mantissa of
53 bits the spacing halves, so there the value must not fall short. -/
theorem ofRational_near {m : ℕ} {e : ℤ} {r : ℚ} (negative : Bool) (h : Canonical m e) (hr : 0 < r)
    (hlow : ((m : ℚ) - 1 / 2) * 2 ^ e < r) (hhigh : r < ((m : ℚ) + 1 / 2) * 2 ^ e)
    (hedge : m = leastNormal → (m : ℚ) * 2 ^ e ≤ r) :
    ofRational negative r = .finite negative m e := by
  have hpow := two_zpow_pos e
  have hlt : Int.log 2 r < e + 53 := by
    apply (Int.lt_zpow_iff_log_lt (b := 2) one_lt_two hr).mp
    have hm : (m : ℚ) + 1 ≤ 2 ^ (53 : ℤ) := by
      have : m + 1 ≤ 2 ^ 53 := h.mantissa_lt
      exact_mod_cast this
    calc r < ((m : ℚ) + 1 / 2) * 2 ^ e := hhigh
      _ ≤ 2 ^ (53 : ℤ) * 2 ^ e := mul_le_mul_of_nonneg_right (by linarith) hpow.le
      _ = 2 ^ (e + 53) := by rw [← zpow_add₀ two_ne_zero, add_comm]
  -- A full mantissa fixes the binade from both sides; below it the spacing is the least one anyway.
  have hspacing : spacingAt r = e := by
    rw [spacingAt]
    by_cases hm : leastNormal ≤ m
    · have hge : e + 52 ≤ Int.log 2 r := by
        apply (Int.zpow_le_iff_le_log (b := 2) one_lt_two hr).mp
        have hpow52 : (2 : ℚ) ^ (e + 52) = leastNormal * 2 ^ e := by
          rw [zpow_add₀ two_ne_zero, mul_comm]
          norm_num [leastNormal]
        rw [Nat.cast_ofNat, hpow52]
        rcases Nat.eq_or_lt_of_le hm with heq | hgt
        · rw [heq]
          exact hedge heq.symm
        · have hm' : (leastNormal : ℚ) ≤ m - 1 / 2 := by
            have : (leastNormal : ℚ) + 1 ≤ m := by exact_mod_cast hgt
            linarith
          exact (mul_le_mul_of_nonneg_right hm' hpow.le).trans hlow.le
      have := h.least_le
      omega
    · have he : e = leastExponent := h.normal.resolve_left hm
      have hlt52 : Int.log 2 r < e + 52 := by
        apply (Int.lt_zpow_iff_log_lt (b := 2) one_lt_two hr).mp
        have hm' : (m : ℚ) + 1 ≤ 2 ^ (52 : ℤ) := by
          have : m + 1 ≤ 2 ^ 52 := Nat.lt_of_not_le hm
          exact_mod_cast this
        calc r < ((m : ℚ) + 1 / 2) * 2 ^ e := hhigh
          _ ≤ 2 ^ (52 : ℤ) * 2 ^ e := mul_le_mul_of_nonneg_right (by linarith) hpow.le
          _ = 2 ^ (e + 52) := by rw [← zpow_add₀ two_ne_zero, add_comm]
      omega
  have hnearest : nearest (r / 2 ^ e) = m := by
    apply nearest_eq (div_nonneg hr.le hpow.le)
    · exact (lt_div_iff₀ hpow).mpr hlow
    · exact (div_lt_iff₀ hpow).mpr hhigh
  have hcarry : ¬ m = 2 * leastNormal := Nat.ne_of_lt h.mantissa_lt
  have hsmall : ¬ greatestExponent < e := not_lt.mpr h.le_greatest
  simp only [ofRational, hspacing, hnearest, if_neg hcarry, if_neg hsmall]

theorem le_nearest {x : ℚ} {a : ℕ} (h : (a : ℚ) ≤ x) : a ≤ nearest x := by
  have hfloor : a ≤ ⌊x⌋₊ := Nat.le_floor h
  simp only [nearest]
  split
  · exact hfloor
  · split
    · omega
    · split <;> omega

theorem nearest_le {x : ℚ} {b : ℕ} (hx : 0 ≤ x) (h : x < b) : nearest x ≤ b := by
  have hfloor : ⌊x⌋₊ < b := (Nat.floor_lt hx).mpr h
  simp only [nearest]
  split
  · omega
  · split
    · omega
    · split <;> omega

/-- Rounding gives a canonical number unless it overflows. -/
theorem ofRational_canonical (negative : Bool) {r : ℚ} (hr : 0 < r) :
    ofRational negative r = .infinite negative ∨
      ∃ m e, ofRational negative r = .finite negative m e ∧ Canonical m e := by
  have hpow := two_zpow_pos (spacingAt r)
  have hleast : leastExponent ≤ spacingAt r := le_max_right _ _
  have hscaled : 0 ≤ r / 2 ^ spacingAt r := div_nonneg hr.le hpow.le
  have hhigh : nearest (r / 2 ^ spacingAt r) ≤ 2 * leastNormal := by
    apply nearest_le hscaled
    rw [div_lt_iff₀ hpow]
    have hlog : Int.log 2 r + 1 ≤ 53 + spacingAt r := by
      rw [spacingAt]
      omega
    calc r < 2 ^ (Int.log 2 r + 1) := Int.lt_zpow_succ_log_self (b := 2) one_lt_two r
      _ ≤ 2 ^ (53 + spacingAt r) := zpow_le_zpow_right₀ one_le_two hlog
      _ = (2 * leastNormal : ℕ) * 2 ^ spacingAt r := by
        rw [zpow_add₀ two_ne_zero]
        norm_num [leastNormal]
  have hlow : leastNormal ≤ nearest (r / 2 ^ spacingAt r) ∨ spacingAt r = leastExponent := by
    by_cases hsub : Int.log 2 r - 52 ≤ leastExponent
    · exact Or.inr (max_eq_right hsub)
    · left
      apply le_nearest
      rw [le_div_iff₀ hpow, spacingAt, max_eq_left (by omega)]
      calc (leastNormal : ℚ) * 2 ^ (Int.log 2 r - 52) = 2 ^ (52 + (Int.log 2 r - 52)) := by
            rw [zpow_add₀ two_ne_zero]
            norm_num [leastNormal]
        _ = 2 ^ Int.log 2 r := by rw [add_sub_cancel]
        _ ≤ r := Int.zpow_log_le_self (b := 2) one_lt_two hr
  simp only [ofRational]
  -- A mantissa that is rounded up to the next binade starts it.
  by_cases hcarry : nearest (r / 2 ^ spacingAt r) = 2 * leastNormal
  · simp only [if_pos hcarry]
    by_cases hbig : greatestExponent < spacingAt r + 1
    · exact Or.inl (if_pos hbig)
    · exact Or.inr ⟨_, _, if_neg hbig, by decide, Or.inl le_rfl, by omega, by omega⟩
  · simp only [if_neg hcarry]
    by_cases hbig : greatestExponent < spacingAt r
    · exact Or.inl (if_pos hbig)
    · exact Or.inr ⟨_, _, if_neg hbig, by omega, hlow, hleast, by omega⟩

/-! ## Decimals -/

theorem log_ten {digits : ℕ} (hdigits : digits ≠ 0) (exponent : ℤ) :
    Int.log 10 ((digits : ℚ) * 10 ^ exponent) + 1 = digitCount digits + exponent := by
  have hcount : 0 < digitCount digits := Nat.length_toDigits_pos
  have hpos : (0 : ℚ) < digits := by exact_mod_cast Nat.pos_of_ne_zero hdigits
  have hr : (0 : ℚ) < digits * 10 ^ exponent := mul_pos hpos (ten_zpow_pos _)
  have hhigh : digits < 10 ^ digitCount digits :=
    (Nat.length_toDigits_le_iff (by decide) hcount).mp le_rfl
  -- One digit less would not hold the number.
  have hlow : 10 ^ (digitCount digits - 1) ≤ digits := by
    by_cases hone : digitCount digits = 1
    · rw [hone]
      exact Nat.pos_of_ne_zero hdigits
    · by_contra hlt
      have := (Nat.length_toDigits_le_iff (b := 10) (by decide) (by omega)).mpr (not_le.mp hlt)
      have : digitCount digits ≤ digitCount digits - 1 := this
      omega
  have hlow' : (10 : ℚ) ^ ((digitCount digits : ℤ) - 1) ≤ digits := by
    rw [← Nat.cast_pred hcount, zpow_natCast]
    exact_mod_cast hlow
  have hhigh' : (digits : ℚ) < 10 ^ (digitCount digits : ℤ) := by
    rw [zpow_natCast]
    exact_mod_cast hhigh
  have hge : (digitCount digits : ℤ) - 1 + exponent ≤ Int.log 10 ((digits : ℚ) * 10 ^ exponent) := by
    apply (Int.zpow_le_iff_le_log (b := 10) (by decide) hr).mp
    rw [Nat.cast_ofNat, zpow_add₀ (by norm_num)]
    exact mul_le_mul_of_nonneg_right hlow' (ten_zpow_pos _).le
  have hlt : Int.log 10 ((digits : ℚ) * 10 ^ exponent) < digitCount digits + exponent := by
    apply (Int.lt_zpow_iff_log_lt (b := 10) (by decide) hr).mp
    rw [Nat.cast_ofNat, zpow_add₀ (by norm_num)]
    exact mul_lt_mul_of_pos_right hhigh' (ten_zpow_pos _)
  omega

theorem ofDecimal_eq (negative : Bool) {digits : ℕ} (hdigits : digits ≠ 0) (exponent : ℤ) :
    ofDecimal negative digits exponent =
      if 400 < Int.log 10 ((digits : ℚ) * 10 ^ exponent) + 1 then .infinite negative
      else if Int.log 10 ((digits : ℚ) * 10 ^ exponent) + 1 < -400 then zero negative
      else ofRational negative (digits * 10 ^ exponent) := by
  have hratio : (if exponent < 0 then ofRatio negative digits (Nat.pow 10 (-exponent).toNat)
      else ofRatio negative (digits * Nat.pow 10 exponent.toNat) 1) =
        ofRational negative (digits * 10 ^ exponent) := by
    by_cases he : exponent < 0
    · have h10 : (10 : ℚ) ^ exponent = 1 / (Nat.pow 10 (-exponent).toNat : ℕ) := zpow_of_neg (b := 10) he
      have hden : 0 < Nat.pow 10 (-exponent).toNat := Nat.pow_pos (by decide)
      rw [if_pos he, ofRatio_eq negative hdigits hden, h10, mul_one_div]
    · have h10 : (10 : ℚ) ^ exponent = (Nat.pow 10 exponent.toNat : ℕ) :=
        zpow_of_nonneg (b := 10) (by omega)
      have hnum : digits * Nat.pow 10 exponent.toNat ≠ 0 :=
        Nat.mul_ne_zero hdigits (Nat.pow_pos (by decide)).ne'
      rw [if_neg he, ofRatio_eq negative hnum one_pos, h10, Nat.cast_mul, Nat.cast_one, div_one]
  simp only [ofDecimal, if_neg hdigits, hratio, log_ten hdigits]

theorem two_zpow_le_ten_zpow {a b : ℕ} (h : 2 ^ a ≤ 10 ^ b) : (2 : ℚ) ^ (a : ℤ) ≤ 10 ^ (b : ℤ) := by
  rw [zpow_natCast, zpow_natCast]
  exact_mod_cast h

/-- Two spellings of one value round alike. -/
theorem ofDecimal_congr (negative : Bool) {d₁ d₂ : ℕ} {e₁ e₂ : ℤ}
    (h : (d₁ : ℚ) * 10 ^ e₁ = d₂ * 10 ^ e₂) : ofDecimal negative d₁ e₁ = ofDecimal negative d₂ e₂ := by
  by_cases h₁ : d₁ = 0
  · have h₂ : d₂ = 0 := by
      rw [h₁, Nat.cast_zero, zero_mul] at h
      exact_mod_cast (mul_eq_zero.mp h.symm).resolve_right (ten_zpow_pos _).ne'
    rw [h₁, h₂, ofDecimal, ofDecimal, if_pos rfl, if_pos rfl]
  · have h₂ : d₂ ≠ 0 := by
      rintro rfl
      rw [Nat.cast_zero, zero_mul] at h
      exact h₁ (by exact_mod_cast (mul_eq_zero.mp h).resolve_right (ten_zpow_pos _).ne')
    rw [ofDecimal_eq negative h₁, ofDecimal_eq negative h₂, h]

/-- A decimal less than half a spacing away from a number reads as that number. -/
theorem ofDecimal_near {m digits : ℕ} {e exponent : ℤ} (negative : Bool) (h : Canonical m e)
    (hm : m ≠ 0) (hdigits : digits ≠ 0)
    (hlow : ((m : ℚ) - 1 / 2) * 2 ^ e < digits * 10 ^ exponent)
    (hhigh : (digits : ℚ) * 10 ^ exponent < ((m : ℚ) + 1 / 2) * 2 ^ e)
    (hedge : m = leastNormal → (m : ℚ) * 2 ^ e ≤ digits * 10 ^ exponent) :
    ofDecimal negative digits exponent = .finite negative m e := by
  have hpow := two_zpow_pos e
  have hpos : (0 : ℚ) < digits := by exact_mod_cast Nat.pos_of_ne_zero hdigits
  have hr : (0 : ℚ) < digits * 10 ^ exponent := mul_pos hpos (ten_zpow_pos _)
  have hsmall : Int.log 10 ((digits : ℚ) * 10 ^ exponent) < 309 := by
    apply (Int.lt_zpow_iff_log_lt (b := 10) (by decide) hr).mp
    have hm' : (m : ℚ) + 1 ≤ 2 ^ (53 : ℤ) := by
      have : m + 1 ≤ 2 ^ 53 := h.mantissa_lt
      exact_mod_cast this
    calc (digits : ℚ) * 10 ^ exponent < ((m : ℚ) + 1 / 2) * 2 ^ e := hhigh
      _ ≤ 2 ^ (53 : ℤ) * 2 ^ greatestExponent :=
        mul_le_mul (by linarith) (zpow_le_zpow_right₀ one_le_two h.le_greatest) hpow.le (two_zpow_pos _).le
      _ = 2 ^ ((1024 : ℕ) : ℤ) := by
        rw [← zpow_add₀ two_ne_zero]
        rfl
      _ ≤ 10 ^ ((309 : ℕ) : ℤ) := two_zpow_le_ten_zpow (by decide +kernel)
  have hlarge : -324 ≤ Int.log 10 ((digits : ℚ) * 10 ^ exponent) := by
    apply (Int.zpow_le_iff_le_log (b := 10) (by decide) hr).mp
    have hm' : (1 : ℚ) ≤ m := by exact_mod_cast Nat.one_le_iff_ne_zero.mpr hm
    calc ((10 : ℕ) : ℚ) ^ (-324 : ℤ) = (10 ^ ((324 : ℕ) : ℤ))⁻¹ := zpow_neg _ _
      _ ≤ (2 ^ ((1075 : ℕ) : ℤ))⁻¹ :=
        inv_anti₀ (two_zpow_pos _) (two_zpow_le_ten_zpow (by decide +kernel))
      _ = 2 ^ (-1 : ℤ) * 2 ^ leastExponent := by
        rw [← zpow_add₀ two_ne_zero, ← zpow_neg]
        rfl
      _ ≤ ((m : ℚ) - 1 / 2) * 2 ^ e := by
        apply mul_le_mul _ (zpow_le_zpow_right₀ one_le_two h.least_le) (two_zpow_pos _).le (by linarith)
        rw [zpow_neg_one]
        linarith
      _ ≤ digits * 10 ^ exponent := hlow.le
  rw [ofDecimal_eq negative hdigits, if_neg (by omega), if_neg (by omega)]
  exact ofRational_near negative h hr hlow hhigh hedge

/-! ## Results of rounding -/

/-- An infinity or a canonical number. -/
def Rounded (x : Binary64) : Prop :=
  (∃ negative, x = .infinite negative) ∨ ∃ negative m e, x = .finite negative m e ∧ Canonical m e

theorem rounded_zero (negative : Bool) : Rounded (zero negative) :=
  Or.inr ⟨negative, 0, leastExponent, rfl, by decide, Or.inr rfl, by decide, by decide⟩

theorem rounded_ofRational (negative : Bool) {r : ℚ} (hr : 0 < r) : Rounded (ofRational negative r) := by
  rcases ofRational_canonical negative hr with h | ⟨m, e, h, hcanonical⟩
  · exact Or.inl ⟨negative, h⟩
  · exact Or.inr ⟨negative, m, e, h, hcanonical⟩

theorem rounded_ofRatio (negative : Bool) (num : ℕ) {den : ℕ} (hden : 0 < den) :
    Rounded (ofRatio negative num den) := by
  by_cases hnum : num = 0
  · rw [ofRatio, if_pos hnum]
    exact rounded_zero _
  · rw [ofRatio_eq _ hnum hden]
    apply rounded_ofRational
    have hnum : (0 : ℚ) < num := by exact_mod_cast Nat.pos_of_ne_zero hnum
    positivity

theorem rounded_ofInt (i : ℤ) : Rounded (ofInt i) :=
  rounded_ofRatio _ _ one_pos

theorem rounded_ofDecimal (negative : Bool) (digits : ℕ) (exponent : ℤ) :
    Rounded (ofDecimal negative digits exponent) := by
  by_cases hdigits : digits = 0
  · rw [ofDecimal, if_pos hdigits]
    exact rounded_zero _
  · rw [ofDecimal_eq _ hdigits]
    split
    · exact Or.inl ⟨negative, rfl⟩
    split
    · exact rounded_zero _
    · apply rounded_ofRational
      have : (0 : ℚ) < digits := by exact_mod_cast Nat.pos_of_ne_zero hdigits
      exact mul_pos this (ten_zpow_pos exponent)

end ScenarioAudit.Number.Binary64
