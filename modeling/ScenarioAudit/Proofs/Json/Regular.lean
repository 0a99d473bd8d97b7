import ScenarioAudit.Json.Reader
import ScenarioAudit.Proofs.Number.Rounding

/-! # What the reader of record files returns

A value is `Regular` if its whole numbers fit 64 bits, its fractions are finite and canonical, and no
object has a key twice. The reader returns nothing else (`regular_of_ofBytes`), and setting a key to a
regular value keeps an object regular (`Regular.set`). A `Tidy` value is regular as soon as it can be written
(`Tidy.regular`).
-/

namespace ScenarioAudit.Json

open ScenarioAudit.Number ScenarioAudit.Number.Binary64

def FiniteCanonical (x : Binary64) : Prop :=
  ∃ neg m e, x = .finite neg m e ∧ Canonical m e

mutual
/-- A value as the reader returns it. -/
def Regular : Json → Prop
  | .int i => isWord i = true
  | .float x => FiniteCanonical x
  | .arr items => RegularItems items
  | .obj members => (members.map Prod.fst).Nodup ∧ RegularMembers members
  | _ => True
def RegularItems : List Json → Prop
  | [] => True
  | v :: vs => Regular v ∧ RegularItems vs
def RegularMembers : List (String × Json) → Prop
  | [] => True
  | (_, v) :: ms => Regular v ∧ RegularMembers ms
end

/-! ## Values without fractions -/

mutual
/-- A value without fractions, in which no object has a key twice. -/
def Tidy : Json → Prop
  | .float _ => False
  | .arr items => TidyItems items
  | .obj members => (members.map Prod.fst).Nodup ∧ TidyMembers members
  | _ => True
def TidyItems : List Json → Prop
  | [] => True
  | v :: vs => Tidy v ∧ TidyItems vs
def TidyMembers : List (String × Json) → Prop
  | [] => True
  | (_, v) :: ms => Tidy v ∧ TidyMembers ms
end

theorem tidyItems_iff {vs : List Json} : TidyItems vs ↔ ∀ v ∈ vs, v.Tidy := by
  induction vs with
  | nil => simp [TidyItems]
  | cons v vs ih => rw [TidyItems, ih, List.forall_mem_cons]

mutual
theorem Tidy.regular : ∀ {v : Json}, v.Tidy → v.fitsWord = true → v.Regular
  | .null, _, _ | .bool _, _, _ | .str _, _, _ => trivial
  | .int _, _, hfits => hfits
  | .arr _, htidy, hfits => TidyItems.regular htidy hfits
  | .obj _, htidy, hfits => ⟨htidy.1, TidyMembers.regular htidy.2 hfits⟩
theorem TidyItems.regular : ∀ {vs : List Json}, TidyItems vs → fitsWordItems vs = true → RegularItems vs
  | [], _, _ => trivial
  | _ :: _, htidy, hfits =>
    have hfits := Bool.and_eq_true_iff.mp hfits
    ⟨htidy.1.regular hfits.1, htidy.2.regular hfits.2⟩
theorem TidyMembers.regular :
    ∀ {ms : List (String × Json)}, TidyMembers ms → fitsWordMembers ms = true → RegularMembers ms
  | [], _, _ => trivial
  | _ :: _, htidy, hfits =>
    have hfits := Bool.and_eq_true_iff.mp hfits
    ⟨htidy.1.regular hfits.1, htidy.2.regular hfits.2⟩
end

/-! ## Setting a key -/

theorem mem_keys_set {ms : Members} {key k : String} {v : Json} :
    k ∈ (ms.set key v).map Prod.fst ↔ k ∈ ms.map Prod.fst ∨ k = key := by
  induction ms with
  | nil => simp [Members.set]
  | cons m ms ih =>
    obtain ⟨k', w⟩ := m
    by_cases hk : k' = key
    · subst hk
      simp only [Members.set, if_pos, List.map_cons, List.mem_cons]
      constructor
      · exact fun h => Or.inl h
      · rintro (h | h)
        · exact h
        · exact Or.inl h
    · simp only [Members.set, if_neg hk, List.map_cons, List.mem_cons, ih, or_assoc]

theorem nodup_keys_set {ms : Members} (h : (ms.map Prod.fst).Nodup) (key : String) (v : Json) :
    ((ms.set key v).map Prod.fst).Nodup := by
  induction ms with
  | nil => simp [Members.set]
  | cons m ms ih =>
    obtain ⟨k', w⟩ := m
    rw [List.map_cons, List.nodup_cons] at h
    by_cases hk : k' = key
    · simp only [Members.set, if_pos hk, List.map_cons, List.nodup_cons]
      exact h
    · simp only [Members.set, if_neg hk, List.map_cons, List.nodup_cons]
      refine ⟨?_, ih h.2⟩
      intro hmem
      rcases mem_keys_set.mp hmem with hmem | heq
      · exact h.1 hmem
      · exact hk heq

theorem RegularMembers.set {ms : Members} (h : RegularMembers ms) (key : String) {v : Json}
    (hv : Regular v) : RegularMembers (ms.set key v) := by
  induction ms with
  | nil => exact ⟨hv, trivial⟩
  | cons m ms ih =>
    obtain ⟨k', w⟩ := m
    by_cases hk : k' = key
    · simp only [Members.set, if_pos hk]
      exact ⟨hv, h.2⟩
    · simp only [Members.set, if_neg hk]
      exact ⟨h.1, ih h.2⟩

theorem Regular.set {ms : Members} (h : Regular (.obj ms)) (key : String) {v : Json}
    (hv : Regular v) : Regular (.obj (ms.set key v)) :=
  ⟨nodup_keys_set h.1 key v, h.2.set key hv⟩

/-! ## Reading -/

theorem fractionWithin_regular {x : Binary64} (hx : Rounded x) {v : Json}
    (h : fractionWithin recordRule x = some v) : Regular v := by
  rcases hx with ⟨neg, rfl⟩ | ⟨neg, m, e, rfl, hcanonical⟩
  · exact absurd h (by simp [fractionWithin, recordRule])
  · cases h
    exact ⟨neg, m, e, rfl, hcanonical⟩

theorem wholeNumber_regular {neg : Bool} {n : ℕ} {v : Json}
    (h : wholeNumber recordRule neg n = some v) : Regular v := by
  simp only [wholeNumber] at h
  generalize (if neg = true then -(n : ℤ) else (n : ℤ)) = i at h
  by_cases hword : (recordRule.keepsWide || isWord i) = true
  · rw [if_pos hword] at h
    cases h
    exact hword
  · rw [if_neg hword] at h
    exact fractionWithin_regular (rounded_ofInt i) h

theorem readUnsigned_regular {neg : Bool} {s rest : List Char} {v : Json}
    (h : readUnsigned recordRule neg s = some (v, rest)) : Regular v := by
  simp only [readUnsigned, Option.bind_eq_bind] at h
  split at h
  · cases h
  obtain ⟨⟨fraction, rest₁⟩, -, h⟩ := Option.bind_eq_some_iff.mp h
  obtain ⟨⟨scale, rest₂⟩, -, h⟩ := Option.bind_eq_some_iff.mp h
  split at h
  · split at h
    · cases h
    · obtain ⟨w, hw, h⟩ := Option.bind_eq_some_iff.mp h
      cases h
      exact wholeNumber_regular hw
  · obtain ⟨w, hw, h⟩ := Option.bind_eq_some_iff.mp h
    cases h
    exact fractionWithin_regular (rounded_ofDecimal _ _ _) hw

theorem readNumber_regular {s rest : List Char} {v : Json}
    (h : readNumber recordRule s = some (v, rest)) : Regular v := by
  rw [readNumber.eq_def] at h
  split at h
  · exact readUnsigned_regular h
  · exact readUnsigned_regular h

/-- With this fuel the three readers give regular values only. -/
structure ReadsRegular (fuel : ℕ) : Prop where
  value : ∀ s v rest, readValue recordRule fuel s = some (v, rest) → Regular v
  items : ∀ s vs rest, readItems recordRule fuel s = some (vs, rest) → RegularItems vs
  members : ∀ ms s ms' rest, Regular (.obj ms) → readMembers recordRule fuel ms s = some (ms', rest) →
    Regular (.obj ms')

section ReadsRegular

variable {fuel : ℕ} (ih : ReadsRegular fuel) {s rest : List Char}

include ih

theorem ReadsRegular.value_succ {v : Json} (h : readValue recordRule (fuel + 1) s = some (v, rest)) :
    Regular v := by
  rw [readValue] at h
  split at h
  · split at h
    · cases h
      exact ⟨List.nodup_nil, trivial⟩
    · simp only [Option.bind_eq_bind] at h
      obtain ⟨⟨ms, rest₁⟩, hms, h⟩ := Option.bind_eq_some_iff.mp h
      cases h
      exact ih.members [] _ _ _ ⟨List.nodup_nil, trivial⟩ hms
  · split at h
    · cases h
      trivial
    · simp only [Option.bind_eq_bind] at h
      obtain ⟨⟨vs, rest₁⟩, hvs, h⟩ := Option.bind_eq_some_iff.mp h
      cases h
      exact ih.items _ _ _ hvs
  · simp only [Option.bind_eq_bind] at h
    obtain ⟨⟨cs, rest₁⟩, -, h⟩ := Option.bind_eq_some_iff.mp h
    cases h
    trivial
  -- the three words
  iterate 3
    · obtain ⟨w, -, h⟩ := Option.map_eq_some_iff.mp h
      cases h
      trivial
  -- the words that stand for no finite number
  iterate 3
    · cases h
  · exact readNumber_regular h

theorem ReadsRegular.items_succ {vs : List Json} (h : readItems recordRule (fuel + 1) s = some (vs, rest)) :
    RegularItems vs := by
  rw [readItems] at h
  simp only [Option.bind_eq_bind] at h
  obtain ⟨⟨v, rest₁⟩, hv, h⟩ := Option.bind_eq_some_iff.mp h
  split at h
  · obtain ⟨⟨ws, rest₂⟩, hws, h⟩ := Option.bind_eq_some_iff.mp h
    cases h
    exact ⟨ih.value _ _ _ hv, ih.items _ _ _ hws⟩
  · cases h
    exact ⟨ih.value _ _ _ hv, trivial⟩
  · cases h

theorem ReadsRegular.members_succ {ms ms' : Members} (hms : Regular (.obj ms))
    (h : readMembers recordRule (fuel + 1) ms s = some (ms', rest)) : Regular (.obj ms') := by
  rw [readMembers] at h
  split at h
  · simp only [Option.bind_eq_bind] at h
    obtain ⟨⟨key, rest₁⟩, -, h⟩ := Option.bind_eq_some_iff.mp h
    split at h
    · obtain ⟨⟨v, rest₂⟩, hv, h⟩ := Option.bind_eq_some_iff.mp h
      have hset := hms.set (String.ofList key) (ih.value _ _ _ hv)
      split at h
      · exact ih.members _ _ _ _ hset h
      · cases h
        exact hset
      · cases h
    · cases h
  · cases h

end ReadsRegular

/-- What is read from any text with any fuel, by induction on the fuel: the three readers call one another
with one less. -/
theorem read_regular (fuel : ℕ) : ReadsRegular fuel := by
  induction fuel with
  | zero =>
    constructor
    · intro s v rest h
      rw [readValue] at h
      cases h
    · intro s vs rest h
      rw [readItems] at h
      cases h
    · intro ms s ms' rest _ h
      rw [readMembers] at h
      cases h
  | succ fuel ih =>
    constructor
    · intro s v rest h
      exact ih.value_succ h
    · intro s vs rest h
      exact ih.items_succ h
    · intro ms s ms' rest hms h
      exact ih.members_succ hms h

theorem regular_of_ofText {s : List Char} {v : Json} (h : ofText? recordRule s = some v) :
    Regular v := by
  simp only [ofText?, Option.bind_eq_bind] at h
  obtain ⟨⟨w, rest⟩, hw, h⟩ := Option.bind_eq_some_iff.mp h
  split at h
  · cases h
    exact (read_regular _).value _ _ _ hw
  · cases h

/-- **The value of a file is regular.** -/
theorem regular_of_ofBytes {bytes : List UInt8} {v : Json} (h : ofBytes? bytes = some v) :
    Regular v := by
  obtain ⟨s, -, hs⟩ := Option.bind_eq_some_iff.mp h
  exact regular_of_ofText hs

end ScenarioAudit.Json
