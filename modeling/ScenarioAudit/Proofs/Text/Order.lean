import ScenarioAudit.Corpus.Step
import ScenarioAudit.Proofs.Text.Utf8

/-! # The order of texts

Texts are compared by their bytes. The bytes of a smaller character are smaller before either sequence ends
(`encodeChar_lt`), so the order of the bytes is that of the code points (`encodeUtf8_lt_iff`), for the names of files
as for lines (`textLE_iff`).
-/

namespace ScenarioAudit.Text

theorem byte_lt_iff {n m : Nat} (hn : n < 256) (hm : m < 256) : UInt8.ofNat n < UInt8.ofNat m ↔ n < m := by
  rw [UInt8.lt_iff_toNat_lt, toNat_byte hn, toNat_byte hm]

theorem byte_eq_iff {n m : Nat} (hn : n < 256) (hm : m < 256) : UInt8.ofNat n = UInt8.ofNat m ↔ n = m := by
  rw [← UInt8.toNat_inj, toNat_byte hn, toNat_byte hm]

theorem encodeChar_cases (c : Char) :
    (c.toNat < 0x80 ∧ String.utf8EncodeChar c = [UInt8.ofNat c.toNat]) ∨
    (0x80 ≤ c.toNat ∧ c.toNat < 0x800 ∧ String.utf8EncodeChar c =
      [UInt8.ofNat (c.toNat / 64 + 0xC0), UInt8.ofNat (c.toNat % 64 + 0x80)]) ∨
    (0x800 ≤ c.toNat ∧ c.toNat < 0x10000 ∧ String.utf8EncodeChar c =
      [UInt8.ofNat (c.toNat / 4096 + 0xE0), UInt8.ofNat (c.toNat / 64 % 64 + 0x80),
        UInt8.ofNat (c.toNat % 64 + 0x80)]) ∨
    (0x10000 ≤ c.toNat ∧ c.toNat < 0x110000 ∧ String.utf8EncodeChar c =
      [UInt8.ofNat (c.toNat / 262144 + 0xF0), UInt8.ofNat (c.toNat / 4096 % 64 + 0x80),
        UInt8.ofNat (c.toNat / 64 % 64 + 0x80), UInt8.ofNat (c.toNat % 64 + 0x80)]) := by
  have hc : c.val.toNat = c.toNat := rfl
  have hvalid : c.toNat < 0xD800 ∨ 0xDFFF < c.toNat ∧ c.toNat < 0x110000 := c.valid
  unfold String.utf8EncodeChar
  simp only [hc]
  generalize c.toNat = n at hvalid
  by_cases h1 : n ≤ 0x7F
  · exact Or.inl ⟨by omega, if_pos h1⟩
  by_cases h2 : n ≤ 0x7FF
  · have hlead : n / 64 % 32 = n / 64 := by omega
    exact Or.inr (Or.inl ⟨by omega, by omega, by rw [if_neg h1, if_pos h2, hlead]⟩)
  by_cases h3 : n ≤ 0xFFFF
  · have hlead : n / 4096 % 16 = n / 4096 := by omega
    exact Or.inr (Or.inr (Or.inl ⟨by omega, by omega, by rw [if_neg h1, if_neg h2, if_pos h3, hlead]⟩))
  · have hlead : n / 262144 % 8 = n / 262144 := by omega
    exact Or.inr (Or.inr (Or.inr ⟨by omega, by omega, by rw [if_neg h1, if_neg h2, if_neg h3, hlead]⟩))

/-- The bytes of a smaller character are smaller, whatever follows them. -/
theorem encodeChar_lt {c d : Char} (h : c.toNat < d.toNat) (x y : List UInt8) :
    String.utf8EncodeChar c ++ x < String.utf8EncodeChar d ++ y := by
  -- One case for each pair of lengths: the longer the sequence, the greater its leading byte.
  rcases encodeChar_cases c with ⟨hc, heq⟩ | ⟨hc, hc', heq⟩ | ⟨hc, hc', heq⟩ | ⟨hc, hc', heq⟩
  all_goals rcases encodeChar_cases d with ⟨hd, heq'⟩ | ⟨hd, hd', heq'⟩ | ⟨hd, hd', heq'⟩ | ⟨hd, hd', heq'⟩
  all_goals rw [heq, heq']
  all_goals
    simp (disch := omega) only [List.cons_append, List.nil_append, List.cons_lt_cons_iff, byte_lt_iff, byte_eq_iff]
  all_goals omega

theorem encodeUtf8_cons (c : Char) (s : List Char) : encodeUtf8 (c :: s) = String.utf8EncodeChar c ++ encodeUtf8 s :=
  List.flatMap_cons

theorem encodeChar_pos (c : Char) (x : List UInt8) : [] < String.utf8EncodeChar c ++ x := by
  rcases encodeChar_cases c with ⟨-, heq⟩ | ⟨-, -, heq⟩ | ⟨-, -, heq⟩ | ⟨-, -, heq⟩
  all_goals rw [heq]
  all_goals exact List.nil_lt_cons _ _

theorem append_lt_append_iff (l x y : List UInt8) : l ++ x < l ++ y ↔ x < y := by
  induction l with
  | nil => rfl
  | cons b l ih => rw [List.cons_append, List.cons_append, List.cons_lt_cons_self, ih]

/-- **The order of the bytes is that of the code points.** -/
theorem encodeUtf8_lt_iff (s t : List Char) : encodeUtf8 s < encodeUtf8 t ↔ s < t := by
  induction s generalizing t with
  | nil =>
    cases t with
    | nil => exact iff_of_false (List.not_lt_nil _) (List.not_lt_nil _)
    | cons d t =>
      rw [encodeUtf8_cons]
      exact iff_of_true (encodeChar_pos d _) (List.nil_lt_cons _ _)
  | cons c s ih =>
    cases t with
    | nil => exact iff_of_false (List.not_lt_nil _) (List.not_lt_nil _)
    | cons d t =>
      rw [encodeUtf8_cons, encodeUtf8_cons, List.cons_lt_cons_iff]
      rcases Nat.lt_trichotomy c.toNat d.toNat with h | h | h
      · exact iff_of_true (encodeChar_lt h _ _) (Or.inl (Char.lt_def.mpr h))
      · obtain rfl : c = d := Char.toNat_inj.mp h
        have hirrefl : ¬ c < c := Char.lt_irrefl c
        rw [append_lt_append_iff, ih]
        simp only [hirrefl, true_and, false_or]
      · have hgt : d < c := Char.lt_def.mpr h
        refine iff_of_false (List.lt_asymm (encodeChar_lt h _ _)) ?_
        rintro (hlt | ⟨rfl, -⟩)
        · exact Char.lt_asymm hgt hlt
        · exact Char.lt_irrefl _ hgt

theorem textLE_iff (s t : List Char) : textLE s t = true ↔ encodeUtf8 s ≤ encodeUtf8 t := by
  rw [← List.not_lt, encodeUtf8_lt_iff]
  induction s generalizing t with
  | nil => exact iff_of_true rfl (List.not_lt_nil t)
  | cons c s ih =>
    cases t with
    | nil => exact iff_of_false (by simp [textLE]) (by simp)
    | cons d t =>
      rw [textLE, List.cons_lt_cons_iff]
      by_cases hcd : c = d
      · subst hcd
        have hirrefl : ¬ c < c := Char.lt_irrefl c
        rw [if_pos rfl, ih]
        simp only [hirrefl, true_and, false_or]
      · have hne : c.toNat ≠ d.toNat := fun h => hcd (Char.toNat_inj.mp h)
        have hdc : d < c ↔ d.toNat < c.toNat := Iff.rfl
        rw [if_neg hcd, decide_eq_true_eq, hdc]
        constructor
        · rintro hlt (hgt | ⟨heq, -⟩)
          · omega
          · exact hcd heq.symm
        · intro hnot
          have hle : ¬ d.toNat < c.toNat := fun h => hnot (Or.inl h)
          omega

end ScenarioAudit.Text
