import ScenarioAudit.Proofs.Number.Value
import ScenarioAudit.Yaml.Basic

/-! # Keys of mappings

Two keys are the same if they stand for the same, whatever kind they are of: `1`, `1.0` and `true` are one key. A value
is `Regular` if its fractions are canonical and no mapping in it has a key twice. Between regular keys being the same is
symmetric and transitive (`sameKey_symm`, `sameKey_trans`), and a key is the same as itself unless it is no number.
-/

namespace ScenarioAudit.Yaml

open ScenarioAudit.Number ScenarioAudit.Number.Binary64 ScenarioAudit.Text

/-! ## Regular values -/

/-- No two entries have the same key. -/
def Entries.Distinct (es : Entries) : Prop :=
  es.Pairwise fun e e' => sameKey e.1 e'.1 = false

mutual
/-- A value whose fractions are canonical, with mappings in which no key is there twice. -/
def Regular : Yaml → Prop
  | .float x => x.Proper
  | .seq items => RegularItems items
  | .set items => RegularItems items
  | .map entries => Entries.Distinct entries ∧ RegularEntries entries
  | .pair first second => Regular first ∧ Regular second
  | _ => True
def RegularItems : List Yaml → Prop
  | [] => True
  | v :: vs => Regular v ∧ RegularItems vs
def RegularEntries : List (Yaml × Yaml) → Prop
  | [] => True
  | (k, v) :: es => (Regular k ∧ Regular v) ∧ RegularEntries es
end

theorem regularItems_iff {vs : List Yaml} : RegularItems vs ↔ ∀ v ∈ vs, v.Regular := by
  induction vs with
  | nil => simp [RegularItems]
  | cons v vs ih => rw [RegularItems, ih, List.forall_mem_cons]

theorem regularEntries_iff {es : Entries} : RegularEntries es ↔ ∀ e ∈ es, e.1.Regular ∧ e.2.Regular := by
  induction es with
  | nil => simp [RegularEntries]
  | cons e es ih =>
    obtain ⟨k, v⟩ := e
    rw [RegularEntries, ih, List.forall_mem_cons]

/-! ## What keys stand for -/

/-- The number that a key stands for. Truth values count as numbers. -/
def number? : Yaml → Option Extended
  | .bool b => some (.finite (if b then 1 else 0))
  | .int i => some (.finite i)
  | .float x => x.extended?
  | _ => none

/-- What a key stands for. -/
inductive Sense where
  | nothing
  | number (value : Extended)
  | text (s : String)
  | codes (s : CodePoints)
  | bytes (b : List UInt8)
  | time (text : String)
  | row (items : List Sense)
  | pair (first second : Sense)

mutual
/-- A key stands for something. What is no number and what cannot be a key stands for nothing. -/
inductive Means : Yaml → Sense → Prop
  | null : Means .null .nothing
  | number {a : Yaml} {v : Extended} (h : a.number? = some v) : Means a (.number v)
  | str (s : String) : Means (.str s) (.text s)
  | codes (s : CodePoints) : Means (.codes s) (.codes s)
  | bytes (b : List UInt8) : Means (.bytes b) (.bytes b)
  | time (text : String) : Means (.time text) (.time text)
  | seq {items : List Yaml} {ss : List Sense} (h : MeansAll items ss) : Means (.seq items) (.row ss)
  | pair {a b : Yaml} {s t : Sense} (ha : Means a s) (hb : Means b t) : Means (.pair a b) (.pair s t)
inductive MeansAll : List Yaml → List Sense → Prop
  | nil : MeansAll [] []
  | cons {v : Yaml} {vs : List Yaml} {s : Sense} {ss : List Sense} (h : Means v s) (hs : MeansAll vs ss) :
    MeansAll (v :: vs) (s :: ss)
end

mutual
theorem Means.unique : ∀ {a : Yaml} {s t : Sense}, Means a s → Means a t → s = t
  | _, _, _, .null, .null => rfl
  | _, _, _, .number h, .number h' => by rw [Option.some.inj (h.symm.trans h')]
  | _, _, _, .str _, .str _ => rfl
  | _, _, _, .codes _, .codes _ => rfl
  | _, _, _, .bytes _, .bytes _ => rfl
  | _, _, _, .time _, .time _ => rfl
  | _, _, _, .seq h, .seq h' => by rw [h.unique h']
  | _, _, _, .pair ha hb, .pair ha' hb' => by rw [ha.unique ha', hb.unique hb']
theorem MeansAll.unique : ∀ {as : List Yaml} {ss ts : List Sense}, MeansAll as ss → MeansAll as ts → ss = ts
  | _, _, _, .nil, .nil => rfl
  | _, _, _, .cons h hs, .cons h' hs' => by rw [h.unique h', hs.unique hs']
end

/-! ## Being the same key -/

/-- A truth value is the same key as the whole number that it counts as. -/
theorem sameKey_bool (p : Bool) (b : Yaml) : sameKey (.bool p) b = sameKey (.int (if p then 1 else 0)) b := by
  cases b with
  | bool q => cases p <;> cases q <;> rfl
  | _ => simp [sameKey]

theorem sameKey_bool_right (a : Yaml) (p : Bool) : sameKey a (.bool p) = sameKey a (.int (if p then 1 else 0)) := by
  cases a with
  | bool q => cases p <;> cases q <;> rfl
  | int i => simp [sameKey, eq_comm]
  | _ => simp [sameKey]

theorem number?_bool (p : Bool) : number? (.bool p) = some (.finite ((if p then 1 else 0 : ℤ) : ℚ)) := by
  cases p with
  | false => simp [number?]
  | true => simp [number?]

theorem sameKey_str_iff {k : Yaml} {s : String} : sameKey k (.str s) = true ↔ k = .str s := by
  cases k <;> simp [sameKey]

theorem sameKey_int_iff {i : ℤ} {b : Yaml} : sameKey (.int i) b = true ↔ b.number? = some (.finite i) := by
  have hwhole (j : ℤ) : sameKey (.int i) (.int j) = true ↔ some (.finite (j : ℚ)) = some (Extended.finite i) := by
    simp [sameKey, eq_comm (a := i)]
  cases b with
  | bool p =>
    rw [sameKey_bool_right, number?_bool]
    exact hwhole _
  | int j => exact hwhole j
  | float x => rw [sameKey, equalInt_iff, number?]
  | _ => simp [sameKey, number?]

theorem sameKey_float_iff {x : Binary64} {b : Yaml} (hx : x.Proper) (hb : b.Regular) :
    sameKey (.float x) b = true ↔ ∃ v, x.extended? = some v ∧ b.number? = some v := by
  cases b with
  | bool p => simp [number?_bool, sameKey, equalInt_iff]
  | int j => simp [sameKey, number?, equalInt_iff]
  | float y =>
    rw [sameKey, number?]
    exact equal_iff hx hb
  | _ => simp [sameKey, number?]

mutual
/-- **Keys are the same if they stand for the same.** -/
theorem sameKey_of_means : ∀ {a b : Yaml} {s : Sense}, a.Regular → b.Regular → a.Means s → b.Means s →
    sameKey a b = true
  | _, _, _, _, _, .null, .null => rfl
  | .bool p, b, _, _, _, .number h, .number h' => by
    rw [number?_bool] at h
    rw [sameKey_bool, sameKey_int_iff, h', h]
  | .int i, b, _, _, _, .number h, .number h' => by rw [sameKey_int_iff, h', ← h, number?]
  | .float x, b, _, ha, hb, .number h, .number h' => (sameKey_float_iff ha hb).mpr ⟨_, h, h'⟩
  | _, _, _, _, _, .str _, .str _ => by simp [sameKey]
  | _, _, _, _, _, .codes _, .codes _ => by simp [sameKey]
  | _, _, _, _, _, .bytes _, .bytes _ => by simp [sameKey]
  | _, _, _, _, _, .time _, .time _ => by simp [sameKey]
  | _, _, _, ha, hb, .seq h, .seq h' => by
    rw [sameKey]
    exact sameKeys_of_means ha hb h h'
  | _, _, _, ha, hb, .pair h₁ h₂, .pair h₁' h₂' => by
    rw [sameKey, sameKey_of_means ha.1 hb.1 h₁ h₁', sameKey_of_means ha.2 hb.2 h₂ h₂']
    rfl
theorem sameKeys_of_means : ∀ {as bs : List Yaml} {ss : List Sense}, RegularItems as → RegularItems bs →
    MeansAll as ss → MeansAll bs ss → sameKeys as bs = true
  | _, _, _, _, _, .nil, .nil => rfl
  | _, _, _, ha, hb, .cons h hs, .cons h' hs' => by
    rw [sameKeys, sameKey_of_means ha.1 hb.1 h h', sameKeys_of_means ha.2 hb.2 hs hs']
    rfl
end

mutual
theorem exists_means : ∀ {a b : Yaml}, a.Regular → b.Regular → sameKey a b = true → ∃ s, a.Means s ∧ b.Means s
  | .bool p, b, _, _, h => by
    rw [sameKey_bool, sameKey_int_iff] at h
    exact ⟨_, .number (number?_bool p), .number h⟩
  | .int i, b, _, _, h => ⟨_, .number rfl, .number (sameKey_int_iff.mp h)⟩
  | .float x, b, ha, hb, h => by
    obtain ⟨v, hx, hb⟩ := (sameKey_float_iff ha hb).mp h
    exact ⟨_, .number hx, .number hb⟩
  | .seq as, b, ha, hb, h => by
    cases b with
    | seq bs =>
      obtain ⟨ss, hs, hs'⟩ := exists_meansAll ha hb (by simpa [sameKey] using h)
      exact ⟨_, .seq hs, .seq hs'⟩
    | _ => simp [sameKey] at h
  | .pair a a', b, ha, hb, h => by
    cases b with
    | pair b b' =>
      rw [sameKey, Bool.and_eq_true] at h
      obtain ⟨s, hs, hs'⟩ := exists_means ha.1 hb.1 h.1
      obtain ⟨t, ht, ht'⟩ := exists_means ha.2 hb.2 h.2
      exact ⟨_, .pair hs ht, .pair hs' ht'⟩
    | _ => simp [sameKey] at h
  | .null, b, _, _, h => by
    cases b with
    | null => exact ⟨_, .null, .null⟩
    | _ => simp [sameKey] at h
  | .str s, b, _, _, h => by
    cases b with
    | str t =>
      obtain rfl : s = t := by simpa [sameKey] using h
      exact ⟨_, .str s, .str s⟩
    | _ => simp [sameKey] at h
  | .codes s, b, _, _, h => by
    cases b with
    | codes t =>
      obtain rfl : s = t := by simpa [sameKey] using h
      exact ⟨_, .codes s, .codes s⟩
    | _ => simp [sameKey] at h
  | .bytes s, b, _, _, h => by
    cases b with
    | bytes t =>
      obtain rfl : s = t := by simpa [sameKey] using h
      exact ⟨_, .bytes s, .bytes s⟩
    | _ => simp [sameKey] at h
  | .time s, b, _, _, h => by
    cases b with
    | time t =>
      obtain rfl : s = t := by simpa [sameKey] using h
      exact ⟨_, .time s, .time s⟩
    | _ => simp [sameKey] at h
  | .map _, _, _, _, h | .set _, _, _, _, h => by simp [sameKey] at h
theorem exists_meansAll : ∀ {as bs : List Yaml}, RegularItems as → RegularItems bs → sameKeys as bs = true →
    ∃ ss, MeansAll as ss ∧ MeansAll bs ss
  | [], [], _, _, _ => ⟨_, .nil, .nil⟩
  | a :: as, b :: bs, ha, hb, h => by
    rw [sameKeys, Bool.and_eq_true] at h
    obtain ⟨s, hs, hs'⟩ := exists_means ha.1 hb.1 h.1
    obtain ⟨ss, hss, hss'⟩ := exists_meansAll ha.2 hb.2 h.2
    exact ⟨_, .cons hs hss, .cons hs' hss'⟩
end

theorem sameKey_symm {a b : Yaml} (ha : a.Regular) (hb : b.Regular) (h : sameKey a b = true) : sameKey b a = true := by
  obtain ⟨s, hs, hs'⟩ := exists_means ha hb h
  exact sameKey_of_means hb ha hs' hs

theorem sameKey_trans {a b c : Yaml} (ha : a.Regular) (hb : b.Regular) (hc : c.Regular) (h : sameKey a b = true)
    (h' : sameKey b c = true) : sameKey a c = true := by
  obtain ⟨s, hs, hs'⟩ := exists_means ha hb h
  obtain ⟨t, ht, ht'⟩ := exists_means hb hc h'
  exact sameKey_of_means ha hc hs (hs'.unique ht ▸ ht')

end ScenarioAudit.Yaml
