import Mathlib.Data.List.Forall2
import Mathlib.Tactic.Common
import ScenarioAudit.Proofs.Text.Utf8
import ScenarioAudit.Text.Blank
import ScenarioAudit.Text.Case

/-! # Words in any letter case

A text that is an ASCII word in lower case is that word with some of its letters capital (`lower_eq_iff`): apart from
the Kelvin sign no character beyond ASCII becomes an ASCII letter, and the dotted capital I leaves its dot behind.
-/

namespace ScenarioAudit.Text

/-- A text is a word in any letter case: each character is the letter at its place, or the capital of it. -/
def Spells (s : List Char) (word : String) : Prop :=
  List.Forall₂ (fun c l => c = l ∨ c = l.toUpper) s word.toList

instance (s : List Char) (word : String) : Decidable (Spells s word) :=
  inferInstanceAs (Decidable (List.Forall₂ _ s word.toList))

/-- An ASCII letter in lower case that no character beyond ASCII becomes. -/
def IsOwnLetter (l : Char) : Prop :=
  97 ≤ l.toNat ∧ l.toNat ≤ 122 ∧ l ≠ 'k'

instance (l : Char) : Decidable (IsOwnLetter l) :=
  inferInstanceAs (Decidable (_ ∧ _))

theorem toLower_eq_iff {c l : Char} (hc : c.toNat < 128) (hl : IsOwnLetter l) :
    c.toLower = l ↔ c = l ∨ c = l.toUpper := by
  have hall : ∀ n < 123, 97 ≤ n → ∀ m < 128,
      ((Char.ofNat m).toLower = Char.ofNat n ↔ Char.ofNat m = Char.ofNat n ∨ Char.ofNat m = (Char.ofNat n).toUpper) := by
    decide +kernel
  have h := hall l.toNat (Nat.lt_succ_of_le hl.2.1) hl.1 c.toNat hc
  rwa [Char.ofNat_toNat, Char.ofNat_toNat] at h

theorem toNat_toUpper_lt {l : Char} (hl : IsOwnLetter l) : l.toUpper.toNat < 128 := by
  have hall : ∀ n < 123, 97 ≤ n → (Char.ofNat n).toUpper.toNat < 128 := by decide +kernel
  have h := hall l.toNat (Nat.lt_succ_of_le hl.2.1) hl.1
  rwa [Char.ofNat_toNat] at h

/-- Beyond ASCII only the Kelvin sign has an ASCII letter as its lower case. -/
theorem lowerChar_ne {c l : Char} (hc : 128 ≤ c.toNat) (hl : IsOwnLetter l) : lowerChar c ≠ l := by
  have hruns : ∀ r ∈ lowercaseRuns, r.last < 128 ∨ r.first = 8490 ∧ r.last = 8490 ∧ r.offset = -8383 ∨
      128 ≤ r.first + r.offset ∧
        (r.last + r.offset < 0xD800 ∨ 0xDFFF < r.first + r.offset ∧ r.last + r.offset < 0x110000) := by
    decide +kernel
  rw [lowerChar]
  split
  next n hfind =>
    obtain ⟨r, hr, himage⟩ := List.exists_of_findSome?_eq_some hfind
    rw [CodeRun.image?, Option.ite_none_right_eq_some, Option.some.injEq] at himage
    obtain ⟨⟨hfirst, hlast, -⟩, rfl⟩ := himage
    rcases hruns r hr with hbelow | ⟨hkelvin, hkelvin', hoffset⟩ | ⟨hbeyond, hrange⟩
    · omega
    · rw [hoffset, show c.toNat = 8490 by omega]
      exact fun heq => hl.2.2 heq.symm
    · rintro rfl
      have hvalid : (Int.ofNat c.toNat + r.offset).toNat.isValidChar := by
        simp only [Nat.isValidChar, Int.ofNat_eq_natCast]
        omega
      have hcode : (Char.ofNat (Int.ofNat c.toNat + r.offset).toNat).toNat = _ := toNat_charOfNat hvalid
      have hle := hl.2.1
      rw [hcode, Int.ofNat_eq_natCast] at hle
      omega
  next =>
    rintro rfl
    exact absurd hl.2.1 (by omega)

theorem lowerFrom_eq_iff {word : List Char} (hword : ∀ l ∈ word, IsOwnLetter l) (before s : List Char) :
    lowerFrom before s = word ↔ List.Forall₂ (fun c l => c = l ∨ c = l.toUpper) s word := by
  induction s generalizing before word with
  | nil => rw [lowerFrom, List.forall₂_nil_left_iff, eq_comm]
  | cons c s ih =>
    cases word with
    | nil =>
      rw [lowerFrom]
      split_ifs <;> simp
    | cons l word =>
      rw [List.forall₂_cons]
      obtain ⟨hl, hrest⟩ := List.forall_mem_cons.mp hword
      rw [lowerFrom]
      by_cases hc : c.toNat < 128
      · rw [if_pos hc, List.cons.injEq, toLower_eq_iff hc hl, ih hrest]
      · have hascii : ¬ (c = l ∨ c = l.toUpper) := by
          rintro (rfl | rfl)
          · exact hc (Nat.lt_of_le_of_lt hl.2.1 (by decide))
          · exact hc (toNat_toUpper_lt hl)
        refine iff_of_false ?_ fun h => hascii h.1
        rw [if_neg hc]
        split_ifs
        · -- The dot is not a letter of the word.
          intro h
          obtain ⟨-, hdot⟩ := List.cons.inj h
          cases word with
          | nil => cases hdot
          | cons m word =>
            obtain ⟨rfl, -⟩ := List.cons.inj hdot
            exact absurd (hrest _ List.mem_cons_self).2.1 (by decide)
        · intro h
          obtain ⟨rfl, -⟩ := List.cons.inj h
          exact absurd hl.2.1 (by decide)
        · intro h
          obtain ⟨rfl, -⟩ := List.cons.inj h
          exact absurd hl.2.1 (by decide)
        · intro h
          exact lowerChar_ne (Nat.not_lt.mp hc) hl (List.cons.inj h).1

/-- **The lower case of a text is a word if the text is that word in some letter case.** -/
theorem lower_eq_iff {s : List Char} {word : String} (hword : ∀ l ∈ word.toList, IsOwnLetter l) :
    lower s = word.toList ↔ Spells s word :=
  lowerFrom_eq_iff hword [] s

theorem Spells.not_isBlank {s : List Char} {word : String} (h : Spells s word)
    (hword : ∀ l ∈ word.toList, IsOwnLetter l) : ∀ c ∈ s, isBlank c = false := by
  have hall : ∀ n < 123, 97 ≤ n → isBlank (Char.ofNat n) = false ∧ isBlank (Char.ofNat n).toUpper = false := by
    decide +kernel
  rw [Spells] at h
  generalize word.toList = letters at h hword
  induction h with
  | nil => simp
  | @cons c l s letters hcl _ ih =>
    obtain ⟨hl, hrest⟩ := List.forall_mem_cons.mp hword
    have hletter := hall l.toNat (Nat.lt_succ_of_le hl.2.1) hl.1
    rw [Char.ofNat_toNat] at hletter
    refine List.forall_mem_cons.mpr ⟨?_, ih hrest⟩
    rcases hcl with rfl | rfl
    · exact hletter.1
    · exact hletter.2

end ScenarioAudit.Text
