import ScenarioAudit.Proofs.Number.Shortest

/-! # What binary numbers stand for

A binary number stands for a rational or for an end of the line, if it is a number at all. Equality of canonical numbers
is equality of what they stand for (`equal_iff`), and so is equality with a whole number (`equalInt_iff`).
-/

namespace ScenarioAudit

open ScenarioAudit.Number

/-- A number on the line of rationals, or one of its ends. -/
inductive Extended where
  | finite (value : ℚ)
  | infinite (negative : Bool)
  deriving DecidableEq

namespace Number.Binary64

/-- What a binary number stands for, if it is a number. -/
def extended? : Binary64 → Option Extended
  | .nan => none
  | .infinite negative => some (.infinite negative)
  | .finite negative m e => some (.finite (if negative then -(m * 2 ^ e) else m * 2 ^ e))

theorem extended?_of_isZero {x : Binary64} (h : x.isZero = true) : x.extended? = some (.finite 0) := by
  cases x with
  | nan => cases h
  | infinite negative => cases h
  | finite negative m e =>
    obtain rfl : m = 0 := by
      cases m with
      | zero => rfl
      | succ m => cases h
    simp [extended?]

theorem extended?_of_equal {x y : Binary64} (h : x.equal y = true) :
    ∃ v, x.extended? = some v ∧ y.extended? = some v := by
  cases x with
  | nan => cases h
  | infinite negative =>
    cases y with
    | nan => cases h
    | infinite negative' =>
      obtain rfl : negative = negative' := by simpa [equal] using h
      exact ⟨_, rfl, rfl⟩
    | finite negative' m' e' => cases h
  | finite negative m e =>
    cases y with
    | nan => cases h
    | infinite negative' => cases h
    | finite negative' m' e' =>
      simp only [equal, Bool.or_eq_true, Bool.and_eq_true, beq_iff_eq] at h
      rcases h with ⟨rfl, rfl⟩ | ⟨⟨rfl, rfl⟩, rfl⟩
      · exact ⟨.finite 0, by simp [extended?], by simp [extended?]⟩
      · exact ⟨_, rfl, rfl⟩

/-- A number without a fraction is what is left when the fraction is cut off. -/
theorem extended?_of_equalInt {x : Binary64} {i : Int} (h : x.equalInt i = true) :
    x.extended? = some (.finite i) := by
  cases x with
  | nan => cases h
  | infinite negative => cases h
  | finite negative m e =>
    obtain ⟨hden, hvalue⟩ := ratio_value m e
    simp only [equalInt, isIntegral, truncate?, Bool.and_eq_true, beq_iff_eq, Option.some.injEq] at h
    obtain ⟨hrest, rfl⟩ := h
    obtain ⟨q, hq⟩ := Nat.dvd_of_mod_eq_zero hrest
    have hden' : ((ratio m e).2 : ℚ) ≠ 0 := by exact_mod_cast hden.ne'
    have hwhole : (m : ℚ) * 2 ^ e = q := by
      rw [← hvalue, hq, Nat.cast_mul, mul_div_cancel_left₀ _ hden']
    rw [extended?, hwhole, hq, Nat.mul_div_cancel_left _ hden]
    cases negative with
    | false => simp
    | true => simp

/-- A number that stands for a whole number has no fraction, and its integer part is that number. -/
theorem equalInt_of_extended? {x : Binary64} {i : ℤ} (h : x.extended? = some (.finite i)) : x.equalInt i = true := by
  cases x with
  | nan => cases h
  | infinite negative => cases h
  | finite negative m e =>
    obtain ⟨hden, hvalue⟩ := ratio_value m e
    have hden' : ((ratio m e).2 : ℚ) ≠ 0 := by exact_mod_cast hden.ne'
    have hsigned : (m : ℚ) * 2 ^ e = if negative then -i else i := by
      have hvalue' : (if negative then -((m : ℚ) * 2 ^ e) else m * 2 ^ e) = i := by simpa [extended?] using h
      cases negative with
      | false => simpa using hvalue'
      | true => simpa [neg_eq_iff_eq_neg] using hvalue'
    -- What the magnitude stands for is whole, so its numerator is a multiple of its denominator.
    have hwhole : ((ratio m e).1 : ℤ) = (if negative then -i else i) * (ratio m e).2 := by
      rw [← hvalue, div_eq_iff hden'] at hsigned
      cases negative with
      | false => exact_mod_cast hsigned
      | true => exact_mod_cast hsigned
    obtain ⟨q, hq⟩ : ∃ q : ℕ, (if negative then -i else i) = (q : ℤ) := by
      refine Int.eq_ofNat_of_zero_le ?_
      have hpos : (0 : ℤ) < (ratio m e).2 := by exact_mod_cast hden
      exact nonneg_of_mul_nonneg_left (hwhole ▸ Int.natCast_nonneg _) hpos
    have hnum : (ratio m e).1 = q * (ratio m e).2 := by
      rw [hq] at hwhole
      exact_mod_cast hwhole
    simp only [equalInt, isIntegral, truncate?, hnum, Nat.mul_mod_left, Nat.mul_div_cancel _ hden, beq_self_eq_true,
      Bool.true_and, beq_iff_eq, Option.some.injEq]
    cases negative with
    | false => simpa using hq.symm
    | true =>
      simp only [if_true] at hq ⊢
      omega

theorem equalInt_iff {x : Binary64} {i : ℤ} : x.equalInt i = true ↔ x.extended? = some (.finite i) :=
  ⟨extended?_of_equalInt, equalInt_of_extended?⟩

/-- Canonical numbers with the same magnitude are the same unless both are zero. -/
theorem canonical_unique {m m' : ℕ} {e e' : ℤ} (h : Canonical m e) (h' : Canonical m' e')
    (heq : (m : ℚ) * 2 ^ e = m' * 2 ^ e') : m = 0 ∧ m' = 0 ∨ m = m' ∧ e = e' := by
  by_cases hm : m = 0
  · refine Or.inl ⟨hm, ?_⟩
    rw [hm, Nat.cast_zero, zero_mul, eq_comm, mul_eq_zero] at heq
    exact_mod_cast heq.resolve_right (two_zpow_pos e').ne'
  · right
    have hpos : (0 : ℚ) < m * 2 ^ e := mul_pos (by exact_mod_cast Nat.pos_of_ne_zero hm) (two_zpow_pos e)
    -- Both are what rounding gives for the one rational.
    have hround {n : ℕ} {k : ℤ} (hn : Canonical n k) (hvalue : (m : ℚ) * 2 ^ e = n * 2 ^ k) :
        ofRational false (m * 2 ^ e) = .finite false n k := by
      have hpow := two_zpow_pos k
      refine ofRational_near false hn hpos ?_ ?_ fun _ => hvalue.ge
      · rw [hvalue]
        exact mul_lt_mul_of_pos_right (by linarith) hpow
      · rw [hvalue]
        exact mul_lt_mul_of_pos_right (by linarith) hpow
    have hsame := (hround h rfl).symm.trans (hround h' heq)
    simpa using hsame

/-- A number in its canonical form, an end of the line, or no number. -/
def Proper (x : Binary64) : Prop :=
  x = .nan ∨ Rounded x

theorem Rounded.proper {x : Binary64} (h : Rounded x) : Proper x :=
  Or.inr h

theorem proper_nan : Proper nan :=
  Or.inl rfl

theorem rounded_infinite (negative : Bool) : Rounded (infinite negative) :=
  Or.inl ⟨negative, rfl⟩

theorem Proper.negate {x : Binary64} (h : Proper x) : Proper x.negate := by
  rcases h with rfl | ⟨negative, rfl⟩ | ⟨negative, m, e, rfl, hm⟩
  · exact proper_nan
  · exact (rounded_infinite _).proper
  · exact Or.inr (Or.inr ⟨!negative, m, e, rfl, hm⟩)

theorem proper_add (x y : Binary64) : Proper (x.add y) := by
  fun_cases add x y with
  | case1 | case2 => exact proper_nan
  | case3 | case5 | case6 => exact (rounded_infinite _).proper
  | case4 => exact proper_nan
  | case7 => exact (rounded_zero _).proper
  | case8 => exact (rounded_ofRatio _ _ (Nat.pow_pos two_pos)).proper
  | case9 => exact (rounded_ofRatio _ _ one_pos).proper

/-- A magnitude with a sign tells the magnitude, and the sign as well unless it is zero. -/
theorem signed_inj {n n' : Bool} {a b : ℚ} (ha : 0 ≤ a) (hb : 0 ≤ b)
    (h : (if n then -a else a) = if n' then -b else b) : a = b ∧ (a = 0 ∨ n = n') := by
  cases n with
  | false =>
    cases n' with
    | false => exact ⟨by simpa using h, Or.inr rfl⟩
    | true =>
      have hsum : a = -b := by simpa using h
      exact ⟨by linarith, Or.inl (by linarith)⟩
  | true =>
    cases n' with
    | false =>
      have hsum : -a = b := by simpa using h
      exact ⟨by linarith, Or.inl (by linarith)⟩
    | true => exact ⟨by simpa using h, Or.inr rfl⟩

/-- **Equality of canonical numbers** is equality of what they stand for. -/
theorem equal_iff {x y : Binary64} (hx : Proper x) (hy : Proper y) :
    x.equal y = true ↔ ∃ v, x.extended? = some v ∧ y.extended? = some v := by
  refine ⟨extended?_of_equal, ?_⟩
  rintro ⟨v, hxv, hyv⟩
  rcases hx with rfl | ⟨negative, rfl⟩ | ⟨negative, m, e, rfl, hm⟩
  · cases hxv
  · rcases hy with rfl | ⟨negative', rfl⟩ | ⟨negative', m', e', rfl, -⟩
    · cases hyv
    · cases hxv
      cases hyv
      simp [equal]
    · cases hxv
      cases hyv
  · rcases hy with rfl | ⟨negative', rfl⟩ | ⟨negative', m', e', rfl, hm'⟩
    · cases hyv
    · cases hxv
      cases hyv
    · have hvalue : (if negative then -((m : ℚ) * 2 ^ e) else m * 2 ^ e) =
          if negative' then -((m' : ℚ) * 2 ^ e') else m' * 2 ^ e' := by
        simpa [extended?] using hxv.trans hyv.symm
      obtain ⟨hmagnitude, hsign⟩ := signed_inj (mul_nonneg (Nat.cast_nonneg m) (two_zpow_pos e).le)
        (mul_nonneg (Nat.cast_nonneg m') (two_zpow_pos e').le) hvalue
      rw [equal, Bool.or_eq_true, Bool.and_eq_true, Bool.and_eq_true, Bool.and_eq_true]
      rcases canonical_unique hm hm' hmagnitude with ⟨rfl, rfl⟩ | ⟨rfl, rfl⟩
      · simp
      · rcases hsign with hzero | rfl
        · have hm0 : m = 0 := by exact_mod_cast (mul_eq_zero.mp hzero).resolve_right (two_zpow_pos e).ne'
          simp [hm0]
        · simp

end Number.Binary64

end ScenarioAudit
