import Mathlib.Tactic.Ring
import ScenarioAudit.Number.Numeral
import ScenarioAudit.Number.Shortest
import ScenarioAudit.Proofs.Number.Rounding

/-! # The spelling of decimals

A decimal in the layout of record files is a `Spelling`: digits before the point, digits after it, an exponent.
`render_spelling` says that the text of a decimal is the text of a spelling of the same value.
-/

namespace ScenarioAudit.Number

/-! ## Digits -/

def AllDigits (ds : List Char) : Prop :=
  ∀ c ∈ ds, c.isDigit = true

theorem AllDigits.append {s t : List Char} (hs : AllDigits s) (ht : AllDigits t) : AllDigits (s ++ t) := by
  intro c hc
  rcases List.mem_append.mp hc with hc | hc
  · exact hs c hc
  · exact ht c hc

theorem allDigits_zeros (n : ℕ) : AllDigits (List.replicate n '0') := by
  intro c hc
  rw [List.eq_of_mem_replicate hc]
  decide

theorem allDigits_toDigits (n : ℕ) : AllDigits (Nat.toDigits 10 n) :=
  fun _ => Nat.isDigit_of_mem_toDigits (by decide) (by decide)

theorem AllDigits.take {s : List Char} (hs : AllDigits s) (n : ℕ) : AllDigits (s.take n) :=
  fun c hc => hs c (List.mem_of_mem_take hc)

theorem AllDigits.drop {s : List Char} (hs : AllDigits s) (n : ℕ) : AllDigits (s.drop n) :=
  fun c hc => hs c (List.mem_of_mem_drop hc)

theorem digitsValue_eq (ds : List Char) : digitsValue ds = Nat.ofDigitChars 10 ds 0 := by
  rw [digitsValue, Nat.ofDigitChars_eq_foldl]
  simp only [Nat.mul_comm]

@[simp] theorem digitsValue_toDigits (n : ℕ) : digitsValue (Nat.toDigits 10 n) = n := by
  rw [digitsValue_eq, Nat.ofDigitChars_ten_toDigits]

theorem digitsValue_append_zeros (ds : List Char) (n : ℕ) :
    digitsValue (ds ++ List.replicate n '0') = digitsValue ds * 10 ^ n := by
  rw [digitsValue_eq, digitsValue_eq, Nat.ofDigitChars_append, Nat.ofDigitChars_replicate_zero,
    Nat.mul_comm]

theorem digitsValue_zeros_append (ds : List Char) (n : ℕ) :
    digitsValue (List.replicate n '0' ++ ds) = digitsValue ds := by
  rw [digitsValue_eq, digitsValue_eq, Nat.ofDigitChars_append, Nat.ofDigitChars_replicate_zero,
    Nat.mul_zero]

theorem head_toDigits {n : ℕ} (hn : n ≠ 0) : (Nat.toDigits 10 n).head? ≠ some '0' := by
  induction n using Nat.strongRecOn with
  | ind n ih =>
    rw [Nat.toDigits_eq_if (by decide)]
    split
    next hlt =>
      have hdigit : ∀ k < 10, k ≠ 0 → Nat.digitChar k ≠ '0' := by decide
      rw [List.head?_cons]
      exact fun heq => hdigit n hlt hn (Option.some.inj heq)
    next hge =>
      rw [List.head?_append_of_ne_nil _ Nat.toDigits_ne_nil]
      exact ih (n / 10) (by omega) (by omega)

/-! ## Spellings -/

/-- A written number that is not whole: the digits before the point, those after it, and the exponent with
its sign. -/
structure Spelling where
  whole : List Char
  fraction : List Char
  scale : Option (Bool × List Char)
  whole_ne_nil : whole ≠ []
  whole_digits : AllDigits whole
  whole_head : whole.length ≤ 1 ∨ whole.head? ≠ some '0'
  fraction_digits : AllDigits fraction
  scale_digits : ∀ neg ds, scale = some (neg, ds) → ds ≠ [] ∧ AllDigits ds
  not_whole : fraction ≠ [] ∨ scale ≠ none

namespace Spelling

def scaleText : Option (Bool × List Char) → List Char
  | none => []
  | some (neg, ds) => 'e' :: (if neg then '-' else '+') :: ds

def scaleValue : Option (Bool × List Char) → ℤ
  | none => 0
  | some (neg, ds) => if neg then -(digitsValue ds : ℤ) else digitsValue ds

/-- The text of the digits after the point. -/
def fractionText : List Char → List Char
  | [] => []
  | c :: cs => '.' :: c :: cs

theorem fractionText_of_ne_nil {fraction : List Char} (h : fraction ≠ []) :
    fractionText fraction = '.' :: fraction := by
  cases fraction with
  | nil => exact absurd rfl h
  | cons => rfl

def text (n : Spelling) : List Char :=
  n.whole ++ fractionText n.fraction ++ scaleText n.scale

def digits (n : Spelling) : ℕ :=
  digitsValue (n.whole ++ n.fraction)

def exponent (n : Spelling) : ℤ :=
  scaleValue n.scale - n.fraction.length

end Spelling

/-! ## The layout of record files -/

/-- Zero, and decimals below one. -/
def smallSpelling (fraction : List Char) (hne : fraction ≠ []) (hdigits : AllDigits fraction) :
    Spelling where
  whole := ['0']
  fraction := fraction
  scale := none
  whole_ne_nil := List.cons_ne_nil _ _
  whole_digits := allDigits_zeros 1
  whole_head := Or.inl (le_refl 1)
  fraction_digits := hdigits
  scale_digits := fun _ _ h => nomatch h
  not_whole := Or.inl hne

theorem length_toDigits_pos (n : ℕ) : 0 < (Nat.toDigits 10 n).length :=
  Nat.length_toDigits_pos

theorem head_take_toDigits {n k : ℕ} (hn : n ≠ 0) (s : List Char) :
    ((Nat.toDigits 10 n).take (k + 1) ++ s).head? ≠ some '0' := by
  have hhead := head_toDigits hn
  rcases hds : Nat.toDigits 10 n with _ | ⟨d, ds⟩
  · exact absurd hds Nat.toDigits_ne_nil
  · rw [hds] at hhead
    exact hhead

/-- Decimals written positionally, the point inside or after their digits. -/
def pointSpelling {n : ℕ} (hn : n ≠ 0) (place : ℕ) : Spelling where
  whole := (Nat.toDigits 10 n).take (place + 1)
    ++ List.replicate (place + 1 - (Nat.toDigits 10 n).length) '0'
  fraction := if ((Nat.toDigits 10 n).drop (place + 1)).isEmpty then ['0']
    else (Nat.toDigits 10 n).drop (place + 1)
  scale := none
  whole_ne_nil := by
    rcases hds : Nat.toDigits 10 n with _ | ⟨d, ds⟩
    · exact absurd hds Nat.toDigits_ne_nil
    · exact List.cons_ne_nil _ _
  whole_digits := ((allDigits_toDigits n).take _).append (allDigits_zeros _)
  whole_head := Or.inr (head_take_toDigits hn _)
  fraction_digits := by
    split
    · exact allDigits_zeros 1
    · exact (allDigits_toDigits n).drop _
  scale_digits := fun _ _ h => nomatch h
  not_whole := by
    left
    split
    · exact List.cons_ne_nil _ _
    next hne => exact fun heq => hne (List.isEmpty_iff.mpr heq)

/-- Decimals written with an exponent. -/
def scaleSpelling (n : ℕ) (top : ℤ) : Spelling where
  whole := (Nat.toDigits 10 n).take 1
  fraction := (Nat.toDigits 10 n).drop 1
  scale := some (decide (top < 0), Nat.toDigits 10 top.natAbs)
  whole_ne_nil := by
    rcases hds : Nat.toDigits 10 n with _ | ⟨d, ds⟩
    · exact absurd hds Nat.toDigits_ne_nil
    · exact List.cons_ne_nil _ _
  whole_digits := (allDigits_toDigits n).take 1
  whole_head := Or.inl (List.length_take_le 1 _)
  fraction_digits := (allDigits_toDigits n).drop 1
  scale_digits := by
    intro neg ds h
    cases h
    exact ⟨Nat.toDigits_ne_nil, allDigits_toDigits _⟩
  not_whole := Or.inr (Option.some_ne_none _)

theorem padZeros_one (n : ℕ) : padZeros 1 (toString n) = toString n := by
  have hpos : 1 ≤ (toString n).length := by
    rw [Nat.toString_eq_repr, ← String.length_toList, Nat.toList_repr]
    exact length_toDigits_pos n
  rw [padZeros, Nat.sub_eq_zero_of_le hpos]
  rfl

def Decimal.top (d : Decimal) : ℤ :=
  (Nat.toDigits 10 d.digits).length + d.exponent - 1

theorem render_eq {d : Decimal} (hd : d.digits ≠ 0) :
    (d.render documentLayout).toList =
      if -5 ≤ d.top ∧ d.top ≤ 15 then
        if d.top < 0 then
          '0' :: '.' :: (List.replicate (-d.top - 1).toNat '0' ++ Nat.toDigits 10 d.digits)
        else (pointSpelling hd d.top.toNat).text
      else (scaleSpelling d.digits d.top).text := by
  simp only [Decimal.render, if_neg hd]
  rw [show documentLayout.leastPositional = -5 from rfl,
    show documentLayout.greatestPositional = 15 from rfl, ← Decimal.top]
  by_cases hplace : -5 ≤ d.top ∧ d.top ≤ 15
  · rw [if_pos hplace, if_pos hplace]
    by_cases hsmall : d.top < 0
    · rw [if_pos hsmall, if_pos hsmall]
      simp
    · rw [if_neg hsmall, if_neg hsmall]
      simp only [Spelling.text, pointSpelling, Spelling.scaleText]
      by_cases hempty : ((Nat.toDigits 10 d.digits).drop (d.top.toNat + 1)).isEmpty = true
      · simp [hempty, Spelling.fractionText]
      · have hne : (Nat.toDigits 10 d.digits).drop (d.top.toNat + 1) ≠ [] :=
          fun heq => hempty (List.isEmpty_iff.mpr heq)
        rw [if_neg hempty, if_neg hempty, Spelling.fractionText_of_ne_nil hne]
        simp
  · rw [if_neg hplace, if_neg hplace]
    have hexp : padZeros documentLayout.exponentDigits (toString d.top.natAbs) = toString d.top.natAbs :=
      padZeros_one _
    have hplus : documentLayout.exponentPlus = "+" := rfl
    rw [hexp, hplus]
    simp only [Spelling.text, scaleSpelling, Spelling.scaleText]
    by_cases hempty : ((Nat.toDigits 10 d.digits).drop 1).isEmpty = true
    · rw [if_pos hempty, List.isEmpty_iff.mp hempty]
      by_cases hneg : d.top < 0
      · simp [hneg, Nat.toString_eq_repr, Spelling.fractionText]
      · simp [hneg, Nat.toString_eq_repr, Spelling.fractionText]
    · have hne : (Nat.toDigits 10 d.digits).drop 1 ≠ [] := fun heq => hempty (List.isEmpty_iff.mpr heq)
      rw [if_neg hempty, Spelling.fractionText_of_ne_nil hne]
      by_cases hneg : d.top < 0
      · simp [hneg, Nat.toString_eq_repr]
      · simp [hneg, Nat.toString_eq_repr]

theorem pointSpelling_value {d : Decimal} (hd : d.digits ≠ 0) (htop : 0 ≤ d.top) :
    ((pointSpelling hd d.top.toNat).digits : ℚ) * 10 ^ (pointSpelling hd d.top.toNat).exponent =
      d.digits * 10 ^ d.exponent := by
  have hplace : (d.top.toNat : ℤ) = (Nat.toDigits 10 d.digits).length + d.exponent - 1 := by
    rw [Int.toNat_of_nonneg htop, Decimal.top]
  simp only [Spelling.digits, Spelling.exponent, pointSpelling, Spelling.scaleValue]
  generalize d.top.toNat = place at *
  by_cases hlen : (Nat.toDigits 10 d.digits).length ≤ place + 1
  · have hempty : ((Nat.toDigits 10 d.digits).drop (place + 1)).isEmpty = true :=
      List.isEmpty_iff.mpr (List.drop_eq_nil_of_le hlen)
    rw [if_pos hempty, List.take_of_length_le hlen, List.append_assoc,
      show ['0'] = List.replicate 1 '0' from rfl, List.replicate_append_replicate,
      digitsValue_append_zeros, digitsValue_toDigits, List.length_replicate]
    obtain ⟨j, hj⟩ : ∃ j : ℕ, j = place + 1 - (Nat.toDigits 10 d.digits).length := ⟨_, rfl⟩
    have hexponent : d.exponent = j := by omega
    rw [← hj, hexponent, zpow_natCast, Nat.cast_mul, Nat.cast_pow, pow_succ]
    norm_num
    ring
  · have hne : ¬ ((Nat.toDigits 10 d.digits).drop (place + 1)).isEmpty = true := by
      rw [List.isEmpty_iff, List.drop_eq_nil_iff]
      exact hlen
    have hpad : place + 1 - (Nat.toDigits 10 d.digits).length = 0 := by omega
    have hexponent : 0 - (((Nat.toDigits 10 d.digits).length - (place + 1) : ℕ) : ℤ) = d.exponent := by
      omega
    rw [if_neg hne, hpad, List.replicate_zero, List.append_nil, List.take_append_drop,
      digitsValue_toDigits, List.length_drop, hexponent]

theorem scaleSpelling_value (d : Decimal) :
    ((scaleSpelling d.digits d.top).digits : ℚ) * 10 ^ (scaleSpelling d.digits d.top).exponent =
      d.digits * 10 ^ d.exponent := by
  have hlen := length_toDigits_pos d.digits
  simp only [Spelling.digits, Spelling.exponent, scaleSpelling, Spelling.scaleValue]
  rw [List.take_append_drop, digitsValue_toDigits, digitsValue_toDigits, List.length_drop]
  congr 2
  rw [Decimal.top]
  split
  next h =>
    have := of_decide_eq_true h
    omega
  next h =>
    have := of_decide_eq_false (Bool.eq_false_iff.mpr h)
    omega

/-- **The text of a decimal is that of a spelling with the same value.** -/
theorem render_spelling (d : Decimal) :
    ∃ n : Spelling, (d.render documentLayout).toList = n.text ∧
      (n.digits : ℚ) * 10 ^ n.exponent = d.digits * 10 ^ d.exponent := by
  by_cases hd : d.digits = 0
  · refine ⟨smallSpelling ['0'] (List.cons_ne_nil _ _) (allDigits_zeros 1), ?_, ?_⟩
    · simp [Decimal.render, hd, documentLayout, Spelling.text, smallSpelling, Spelling.fractionText,
        Spelling.scaleText]
    · have hzero : (smallSpelling ['0'] (List.cons_ne_nil _ _) (allDigits_zeros 1)).digits = 0 := rfl
      rw [hzero, hd, Nat.cast_zero, zero_mul, zero_mul]
  rw [render_eq hd]
  by_cases hplace : -5 ≤ d.top ∧ d.top ≤ 15
  · rw [if_pos hplace]
    by_cases hsmall : d.top < 0
    · rw [if_pos hsmall]
      have hne : List.replicate (-d.top - 1).toNat '0' ++ Nat.toDigits 10 d.digits ≠ [] := by
        simp [Nat.toDigits_ne_nil]
      refine ⟨smallSpelling _ hne ((allDigits_zeros _).append (allDigits_toDigits _)), ?_, ?_⟩
      · rw [Spelling.text, smallSpelling, Spelling.fractionText_of_ne_nil hne, Spelling.scaleText,
          List.append_nil]
        rfl
      · simp only [Spelling.digits, Spelling.exponent, smallSpelling, Spelling.scaleValue]
        have hexponent : 0 - ((List.replicate (-d.top - 1).toNat '0' ++
            Nat.toDigits 10 d.digits).length : ℤ) = d.exponent := by
          rw [List.length_append, List.length_replicate]
          rw [Decimal.top] at hsmall ⊢
          omega
        rw [hexponent, show ['0'] = List.replicate 1 '0' from rfl, digitsValue_zeros_append,
          digitsValue_zeros_append, digitsValue_toDigits]
    · rw [if_neg hsmall]
      exact ⟨_, rfl, pointSpelling_value hd (by omega)⟩
  · rw [if_neg hplace]
    exact ⟨_, rfl, scaleSpelling_value d⟩

end ScenarioAudit.Number
