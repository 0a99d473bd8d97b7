import Mathlib.Tactic.Common
import ScenarioAudit.Proofs.Number.Layout
import ScenarioAudit.Proofs.Text.Lines

/-! # Rows of digits

A row of decimal digits, of whatever script, is read as a number unless it is too long (`wholeOfText_digits`): it has no
sign, nothing around it and no underscore in it. So what is read from one is never negative (`wholeOfText_nonneg`), and
a numeral that is short enough is read as its number (`wholeOfText_numeral`).
-/

namespace ScenarioAudit.Number

open ScenarioAudit.Text

/-! ## Digits of any script -/

theorem not_isBlank_of_isDecimalDigit {c : Char} (h : isDecimalDigit c = true) : isBlank c = false := by
  have hall : ∀ n ∈ blankCodes, decimalSet.containsCode n = false := by decide
  by_contra hblank
  rw [Bool.not_eq_false] at hblank
  exact absurd h (Bool.eq_false_iff.mp (hall c.toNat (mem_blankCodes hblank)))

theorem not_isDecimalDigit_of_isBlank {c : Char} (h : isBlank c = true) : isDecimalDigit c = false := by
  rw [Bool.eq_false_iff]
  intro hdigit
  rw [not_isBlank_of_isDecimalDigit hdigit] at h
  cases h

/-- Below the other scripts only the ten ASCII digits are decimal digits. -/
theorem isDigit_of_isDecimalDigit {c : Char} (h : isDecimalDigit c = true) (hc : c.toNat < 127) :
    c.isDigit = true := by
  have hall : ∀ n < 127, decimalSet.containsCode n = true → 48 ≤ n ∧ n ≤ 57 := by decide
  obtain ⟨hle, hge⟩ := hall c.toNat hc h
  simp only [Char.isDigit, UInt32.le_iff_toNat_le, Bool.and_eq_true, decide_eq_true_eq]
  exact ⟨hle, hge⟩

theorem isDigit_of_mem_plainNumeral {ds : List Char} (hds : ∀ c ∈ ds, isDecimalDigit c = true) :
    ∀ c ∈ plainNumeral ds, c.isDigit = true := by
  have hdigit : ∀ n < 10, (Char.ofNat ('0'.toNat + n)).isDigit = true := by decide
  intro d hd
  obtain ⟨c, hc, rfl⟩ := List.mem_map.mp hd
  split
  next hascii => exact isDigit_of_isDecimalDigit (hds c hc) hascii
  next =>
    rw [not_isBlank_of_isDecimalDigit (hds c hc), if_neg Bool.false_ne_true, if_pos (hds c hc)]
    exact hdigit _ (Nat.mod_lt _ (by decide))

/-! ## Reading a row of digits -/

theorem trimNumeral_digits {ds : List Char} (h : ∀ c ∈ ds, c.isDigit = true) : trimNumeral ds = ds := by
  have hkeep {l : List Char} (hl : ∀ c ∈ l, c.isDigit = true) : l.dropWhile isNumeralBlank = l := by
    cases l with
    | nil => rfl
    | cons c l =>
      refine List.dropWhile_cons_of_neg ?_
      have hc := hl c List.mem_cons_self
      simp only [Char.isDigit, UInt32.le_iff_toNat_le, Bool.and_eq_true, decide_eq_true_eq] at hc
      have hne : c ≠ ' ' := by
        rintro rfl
        exact absurd hc.1 (by decide)
      simp only [isNumeralBlank, Bool.or_eq_true, beq_iff_eq, Bool.and_eq_true, decide_eq_true_eq, hne, false_or]
      have hle : 48 ≤ c.toNat := hc.1
      omega
  rw [trimNumeral, hkeep h, hkeep fun c hc => h c (List.mem_reverse.mp hc), List.reverse_reverse]

theorem takeSign_digits {ds : List Char} (h : ∀ c ∈ ds, c.isDigit = true) : takeSign ds = (false, ds) := by
  unfold takeSign
  split
  · exact absurd (h _ List.mem_cons_self) (by decide)
  · exact absurd (h _ List.mem_cons_self) (by decide)
  · rfl

theorem takeDigits_digits {ds : List Char} (h : ∀ c ∈ ds, c.isDigit = true) (place : DigitPlace)
    (hplace : place ≠ .afterUnderscore) : takeDigits place ds = some (ds, []) := by
  induction ds generalizing place with
  | nil => rw [takeDigits, if_neg hplace]
  | cons c ds ih =>
    have hrest := ih (fun d hd => h d (List.mem_cons_of_mem c hd)) .afterDigit (by decide)
    rw [takeDigits, if_pos (h c List.mem_cons_self), hrest]
    rfl

/-- **A row of digits is read unless it is too long.** -/
theorem wholeOfText_digits {ds : List Char} (hne : ds ≠ []) (hds : ∀ c ∈ ds, isDecimalDigit c = true) :
    wholeOfText (String.ofList ds) =
      if digitLimit < ds.length then .error (.tooLong ds.length) else .ok (digitsValue (plainNumeral ds)) := by
  have hplain := isDigit_of_mem_plainNumeral hds
  have hlength : (plainNumeral ds).length = ds.length := List.length_map _
  have hempty : (plainNumeral ds).isEmpty = false := by
    rw [List.isEmpty_eq_false_iff, plainNumeral, Ne, List.map_eq_nil_iff]
    exact hne
  simp only [wholeOfText, String.toList_ofList, trimNumeral_digits hplain, takeSign_digits hplain,
    takeDigits_digits hplain .start (by decide), hlength, hempty, List.isEmpty_nil, Bool.not_true, Bool.or_self]
  simp

/-- **What is read from a row of digits is not negative.** -/
theorem wholeOfText_nonneg {ds : List Char} (hds : ∀ c ∈ ds, isDecimalDigit c = true) {i : Int}
    (h : wholeOfText (String.ofList ds) = .ok i) : 0 ≤ i := by
  cases ds with
  | nil => cases h
  | cons c ds =>
    rw [wholeOfText_digits (List.cons_ne_nil c ds) hds] at h
    split at h
    · cases h
    · cases h
      exact Int.natCast_nonneg _

/-! ## Numerals -/

/-- The decimal digits of a number. -/
def numeral (n : ℕ) : List Char :=
  Nat.toDigits 10 n

/-- A number whose numeral is short enough to be read. -/
def Readable (n : ℕ) : Prop :=
  (numeral n).length ≤ digitLimit

instance (n : ℕ) : Decidable (Readable n) :=
  inferInstanceAs (Decidable (_ ≤ _))

theorem numeral_ne_nil (n : ℕ) : numeral n ≠ [] :=
  Nat.toDigits_ne_nil

theorem isDigit_of_mem_numeral {n : ℕ} {c : Char} (hc : c ∈ numeral n) : c.isDigit = true :=
  allDigits_toDigits n c hc

theorem not_mem_numeral {n : ℕ} {c : Char} (hc : c.isDigit = false) : c ∉ numeral n := by
  intro hmem
  rw [isDigit_of_mem_numeral hmem] at hc
  cases hc

theorem mem_digits_of_mem_numeral {n : ℕ} {c : Char} (hc : c ∈ numeral n) : c ∈ "0123456789".toList := by
  have hall : ∀ n < 58, 48 ≤ n → Char.ofNat n ∈ "0123456789".toList := by decide
  have hdigit := isDigit_of_mem_numeral hc
  simp only [Char.isDigit, UInt32.le_iff_toNat_le, Bool.and_eq_true, decide_eq_true_eq] at hdigit
  rw [← Char.ofNat_toNat c]
  exact hall c.toNat (Nat.lt_succ_of_le hdigit.2) hdigit.1

theorem isDecimalDigit_of_isDigit {c : Char} (h : c.isDigit = true) : isDecimalDigit c = true := by
  have hall : ∀ n < 58, 48 ≤ n → decimalSet.containsCode n = true := by decide
  simp only [Char.isDigit, UInt32.le_iff_toNat_le, Bool.and_eq_true, decide_eq_true_eq] at h
  exact hall c.toNat (Nat.lt_succ_of_le h.2) h.1

theorem isDecimalDigit_of_mem_numeral {n : ℕ} : ∀ c ∈ numeral n, isDecimalDigit c = true :=
  fun _ hc => isDecimalDigit_of_isDigit (isDigit_of_mem_numeral hc)

theorem numeral_eq_cons (n : ℕ) : ∃ d ds, numeral n = d :: ds ∧ isDecimalDigit d = true := by
  obtain ⟨d, ds, hds⟩ := List.exists_cons_of_ne_nil (numeral_ne_nil n)
  exact ⟨d, ds, hds, isDecimalDigit_of_mem_numeral d (by rw [hds]; exact List.mem_cons_self)⟩

theorem plainNumeral_of_isDigit {ds : List Char} (hds : ∀ c ∈ ds, c.isDigit = true) : plainNumeral ds = ds := by
  rw [plainNumeral]
  conv_rhs => rw [← List.map_id ds]
  apply List.map_congr_left
  intro c hc
  have hle : c.toNat ≤ 57 := by
    have hdigit := hds c hc
    simp only [Char.isDigit, UInt32.le_iff_toNat_le, Bool.and_eq_true, decide_eq_true_eq] at hdigit
    exact hdigit.2
  exact if_pos (by omega)

/-- **A numeral is read as its number.** -/
theorem wholeOfText_numeral {n : ℕ} (h : Readable n) : wholeOfText (String.ofList (numeral n)) = .ok n := by
  have hplain : plainNumeral (numeral n) = numeral n := plainNumeral_of_isDigit fun c => isDigit_of_mem_numeral
  rw [wholeOfText_digits (numeral_ne_nil n) isDecimalDigit_of_mem_numeral, if_neg (Nat.not_lt.mpr h), hplain, numeral,
    digitsValue_toDigits]

end ScenarioAudit.Number
