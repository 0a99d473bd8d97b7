import ScenarioAudit.Proofs.Yaml.Overlay
import ScenarioAudit.Proofs.Tree
import ScenarioAudit.Yaml.Document

/-! # Documents hold regular values

What is read from a text has canonical fractions, and its mappings have no key twice (`regular_of_ofText`): fractions
come out of rounding, and mappings are filled key by key.
-/

namespace ScenarioAudit.Yaml

open ScenarioAudit.Number ScenarioAudit.Number.Binary64 ScenarioAudit.Text

/-! ## Fractions -/

theorem proper_decimalOf? {neg : Bool} {s : List Char} {x : Binary64} (h : decimalOf? neg s = some x) : x.Proper := by
  simp only [decimalOf?] at h
  split at h <;>
    · split at h
      · cases h
      · obtain ⟨e, -, rfl⟩ := Option.map_eq_some_iff.mp h
        exact (rounded_ofDecimal _ _ _).proper

theorem proper_binaryOfText {s : String} {x : Binary64} (h : binaryOfText s = .ok x) : x.Proper := by
  simp only [binaryOfText] at h
  split at h
  · obtain rfl := Except.ok.inj h
    rename_i hresult
    obtain ⟨plain, -, hresult⟩ := Option.bind_eq_some_iff.mp hresult
    split at hresult
    · obtain rfl := Option.some.inj hresult
      exact (rounded_infinite _).proper
    · split at hresult
      · obtain rfl := Option.some.inj hresult
        exact proper_nan
      · exact proper_decimalOf? hresult
  · cases h

theorem proper_decimalFraction {s : List Char} {x : Binary64} (h : decimalFraction s = .ok x) : x.Proper := by
  simp only [decimalFraction, asNumeral] at h
  split at h
  · obtain rfl := Except.ok.inj h
    exact proper_binaryOfText ‹_›
  · cases h

theorem proper_sixtiesFraction {parts : List (List Char)} {x : Binary64} (h : sixtiesFraction parts = .ok x) :
    x.Proper := by
  obtain ⟨digits, -, h⟩ := bind_eq_ok h
  split at h
  · cases h
  · obtain rfl := Except.ok.inj h
    -- every sum that has been added up is canonical
    have hsum (ds : List Binary64) : ∀ sum : Binary64 × Int, sum.1.Proper →
        (ds.foldl (fun sum d => (sum.1.add (d.mul (Binary64.ofInt sum.2)), sum.2 * 60)) sum).1.Proper := by
      induction ds with
      | nil => exact fun _ hsum => hsum
      | cons d ds ih => exact fun sum _ => ih _ (proper_add _ _)
    exact hsum _ _ (rounded_zero false).proper

theorem proper_floatOfText {s : List Char} {x : Binary64} (h : floatOfText s = .ok x) : x.Proper := by
  have hsigned {neg : Bool} {y : Binary64} (hy : y.Proper) : (if neg = true then y.negate else y).Proper := by
    split
    · exact hy.negate
    · exact hy
  simp only [floatOfText] at h
  split at h
  · cases h
  · split at h
    · obtain rfl := Except.ok.inj h
      exact hsigned (rounded_infinite false).proper
    · split at h
      · obtain rfl := Except.ok.inj h
        exact hsigned proper_nan
      · split at h
        · obtain ⟨y, hy, h⟩ := bind_eq_ok h
          obtain rfl := Except.ok.inj h
          exact hsigned (proper_sixtiesFraction hy)
        · obtain ⟨y, hy, h⟩ := bind_eq_ok h
          obtain rfl := Except.ok.inj h
          exact hsigned (proper_decimalFraction hy)

/-! ## Scalars and collections -/

theorem regular_ofCodes (s : CodePoints) : (ofCodes s).Regular := by
  rw [ofCodes]
  split <;> trivial

theorem regular_ofScalar {tag : Tag} {codes : CodePoints} {v : Yaml} (h : ofScalar tag codes = .ok v) : v.Regular := by
  cases tag with
  | float =>
    obtain ⟨x, hx, rfl⟩ := map_eq_ok h
    exact proper_floatOfText hx
  | bool | int | binary =>
    obtain ⟨x, -, rfl⟩ := map_eq_ok h
    trivial
  | null =>
    obtain rfl := Except.ok.inj h
    trivial
  | text =>
    obtain rfl := Except.ok.inj h
    exact regular_ofCodes codes
  | timestamp =>
    simp only [ofScalar, timeOfText] at h
    split at h
    · cases h
    · split at h
      · cases h
      · obtain rfl := Except.ok.inj h
        trivial
  | _ => cases h

theorem Deep.mem_all {α : Type} {rs : List (Deep α)} {as : List α} (h : Deep.all rs = .ok as) :
    ∀ a ∈ as, (.ok a : Deep α) ∈ rs := by
  induction rs generalizing as with
  | nil =>
    obtain rfl := Except.ok.inj h
    simp
  | cons r rs ih =>
    simp only [Deep.all] at h
    split at h
    · obtain rfl := Except.ok.inj h
      refine List.forall_mem_cons.mpr ⟨List.mem_cons_self, fun a ha => List.mem_cons_of_mem _ (ih ‹_› a ha)⟩
    all_goals cases h

theorem Deep.all_pair {α : Type} {r r' : Deep α} {as : List α} (h : Deep.all [r, r'] = .ok as) :
    ∃ a a', as = [a, a'] ∧ r = .ok a ∧ r' = .ok a' := by
  cases r' with
  | error f => cases r <;> cases h
  | ok a' =>
    cases r with
    | error f => cases h
    | ok a => exact ⟨a, a', (Except.ok.inj h).symm, rfl, rfl⟩

theorem Node.regular_toEntries {pairs : List (Yaml × Yaml)} (h : ∀ e ∈ pairs, e.1.Regular ∧ e.2.Regular) :
    Regular (.map (Node.toEntries pairs)) := by
  have hfold : ∀ {pairs : List (Yaml × Yaml)} {es : Entries}, (∀ e ∈ pairs, e.1.Regular ∧ e.2.Regular) →
      Regular (.map es) → Regular (.map (pairs.foldl (fun es e => Entries.put es e.1 e.2) es)) := by
    intro pairs
    induction pairs with
    | nil => exact fun _ hes => hes
    | cons e pairs ih =>
      intro es h hes
      obtain ⟨he, h⟩ := List.forall_mem_cons.mp h
      exact ih h (hes.put he.1 he.2)
  exact hfold h ⟨List.Pairwise.nil, trivial⟩

/-! ## Nodes -/

theorem Node.regular_of_value (fuel : ℕ) : ∀ {depth : ℕ} {n : Node} {v : Yaml}, n.value fuel depth = .ok v →
    v.Regular := by
  induction fuel with
  | zero =>
    intro depth n v h
    rw [Node.value] at h
    cases h
  | succ fuel ih =>
    intro depth n v h
    unfold Node.value at h
    extract_lets inner fail pair entry mappingOf at h
    have hpair {kv : Node × Node} {e : Yaml × Yaml} (he : pair kv = .ok e) : e.1.Regular ∧ e.2.Regular := by
      obtain ⟨both, hboth, he⟩ := bind_eq_ok he
      obtain ⟨k, w, rfl, hk, hw⟩ := Deep.all_pair hboth
      obtain rfl := Except.ok.inj he
      exact ⟨ih hk, ih hw⟩
    have hmapping {es : Entries} (hes : mappingOf = .ok es) : Regular (.map es) := by
      simp only [mappingOf] at hes
      split at hes
      · obtain ⟨pairs, hpairs, hes⟩ := bind_eq_ok hes
        obtain rfl := Except.ok.inj hes
        refine Node.regular_toEntries fun e he => ?_
        obtain ⟨kv, -, hkv⟩ := List.mem_map.mp (Deep.mem_all hpairs e he)
        simp only [entry] at hkv
        split at hkv
        · cases hkv
        · exact hpair hkv
      · cases hes
    split at h
    case h_1 =>
      split at h
      · obtain ⟨vs, hvs, rfl⟩ := map_eq_ok h
        refine regularItems_iff.mpr fun w hw => ?_
        obtain ⟨item, -, hitem⟩ := List.mem_map.mp (Deep.mem_all hvs w hw)
        exact ih hitem
      · simp [fail] at h
    case h_2 =>
      split at h
      · obtain ⟨vs, hvs, rfl⟩ := map_eq_ok h
        refine regularItems_iff.mpr fun w hw => ?_
        obtain ⟨item, -, hitem⟩ := List.mem_map.mp (Deep.mem_all hvs w hw)
        split at hitem
        · obtain ⟨e, he, rfl⟩ := map_eq_ok hitem
          exact hpair he
        · simp [fail] at hitem
      · simp [fail] at h
    case h_3 =>
      obtain ⟨es, hes, rfl⟩ := map_eq_ok h
      exact hmapping hes
    case h_4 =>
      obtain ⟨es, hes, rfl⟩ := map_eq_ok h
      refine regularItems_iff.mpr fun k hk => ?_
      obtain ⟨e, he, rfl⟩ := List.mem_map.mp hk
      exact (hmapping hes).keys e he
    case h_5 =>
      split at h
      · split at h
        · cases h
        · simp only [Deep.at_] at h
          split at h
          · obtain rfl := Except.ok.inj h
            exact regular_ofScalar ‹_›
          · cases h
      · cases h

/-- **What is read from a text is regular.** -/
theorem regular_of_ofText {s : List Char} {v : Yaml} (h : ofText s = .ok v) : v.Regular := by
  obtain ⟨n, -, h⟩ := bind_eq_ok h
  split at h
  · obtain rfl := Except.ok.inj h
    trivial
  · split at h
    · obtain rfl := Except.ok.inj h
      exact Node.regular_of_value _ ‹_›
    · cases h

end ScenarioAudit.Yaml
