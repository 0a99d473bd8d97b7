import ScenarioAudit.Proofs.Yaml.Key
import ScenarioAudit.Yaml.Basic

/-! # What an overlay holds

An overlay is read off path by path: where the upper mapping holds something that is no mapping, that is what the
overlay holds; where it holds nothing, and no such value stands on the way, the lower mapping shows
(`overlay_pathwise`). Everything follows from what is under one key (`get?_overlay`) and one step of a path
(`at?_overlayAt_map`).

Keys are compared by value, as the keys of two readings of a document are. A key that is not a number has the value of
no key of another reading, so each reading that is laid over a mapping puts it there once more, where no path sees it.
-/

namespace ScenarioAudit.Yaml

/-! ## Looking up and setting -/

namespace Entries

def KeysRegular (es : Entries) : Prop :=
  ∀ e ∈ es, e.1.Regular

theorem get?_cons (k v : Yaml) (es : Entries) (key : Yaml) :
    get? ((k, v) :: es) key = if sameKey k key then some v else get? es key := by
  rw [get?, List.find?_cons]
  cases h : sameKey k key with
  | true => simp
  | false => simp [get?]

theorem mem_of_get? {es : Entries} {key v : Yaml} (h : get? es key = some v) :
    ∃ k, (k, v) ∈ es ∧ sameKey k key = true := by
  obtain ⟨⟨k, w⟩, he, rfl⟩ := Option.map_eq_some_iff.mp h
  exact ⟨k, List.mem_of_find?_eq_some he, List.find?_some (p := fun e : Yaml × Yaml => sameKey e.1 key) he⟩

theorem get?_eq_none_iff {es : Entries} {key : Yaml} : get? es key = none ↔ ∀ e ∈ es, sameKey e.1 key = false := by
  simp [get?, List.find?_eq_none]

theorem get?_congr {es : Entries} {k k' : Yaml} (hes : KeysRegular es) (hk : k.Regular) (hk' : k'.Regular)
    (h : sameKey k k' = true) : get? es k = get? es k' := by
  induction es with
  | nil => rfl
  | cons e es ih =>
    obtain ⟨he, hes⟩ := List.forall_mem_cons.mp hes
    have hsame : sameKey e.1 k = sameKey e.1 k' := Bool.eq_iff_iff.mpr
      ⟨fun hek => sameKey_trans he hk hk' hek h, fun hek => sameKey_trans he hk' hk hek (sameKey_symm hk hk' h)⟩
    rw [get?_cons, get?_cons, hsame, ih hes]

/-- In a mapping without repeated keys every entry is found under its key, if the key equals itself. -/
theorem get?_of_mem {es : Entries} {k v : Yaml} (hes : KeysRegular es) (hd : es.Distinct) (hmem : (k, v) ∈ es)
    (hk : sameKey k k = true) : get? es k = some v := by
  induction es with
  | nil => cases hmem
  | cons e es ih =>
    obtain ⟨hhead, hd⟩ := List.pairwise_cons.mp hd
    rw [get?_cons]
    obtain heq | hmem := List.mem_cons.mp hmem
    · obtain rfl := heq
      rw [if_pos hk]
    · rw [if_neg (Bool.eq_false_iff.mp (hhead _ hmem))]
      exact ih (fun e he => hes e (List.mem_cons_of_mem _ he)) hd hmem

/-- An entry that is there after a key is set was there before, but for the value that was set. -/
theorem mem_put {es : Entries} {k v : Yaml} {e : Yaml × Yaml} (h : e ∈ es.put k v) :
    e ∈ es ∨ e.2 = v ∧ (e.1 = k ∨ ∃ w, (e.1, w) ∈ es) := by
  induction es with
  | nil =>
    obtain rfl := List.mem_singleton.mp h
    exact .inr ⟨rfl, .inl rfl⟩
  | cons e' es ih =>
    obtain ⟨k', w⟩ := e'
    rw [put] at h
    split at h
    · obtain rfl | h := List.mem_cons.mp h
      · exact .inr ⟨rfl, .inr ⟨w, List.mem_cons_self⟩⟩
      · exact .inl (List.mem_cons_of_mem _ h)
    · obtain rfl | h := List.mem_cons.mp h
      · exact .inl List.mem_cons_self
      · obtain h | ⟨hv, hk | ⟨w', hw⟩⟩ := ih h
        · exact .inl (List.mem_cons_of_mem _ h)
        · exact .inr ⟨hv, .inl hk⟩
        · exact .inr ⟨hv, .inr ⟨w', List.mem_cons_of_mem _ hw⟩⟩

theorem KeysRegular.put {es : Entries} {k : Yaml} (hes : KeysRegular es) (hk : k.Regular) (v : Yaml) :
    KeysRegular (es.put k v) := by
  intro e he
  obtain he | ⟨-, rfl | ⟨w, hw⟩⟩ := mem_put he
  · exact hes e he
  · exact hk
  · exact hes (e.1, w) hw

theorem get?_put {es : Entries} {k key : Yaml} (hes : KeysRegular es) (hk : k.Regular) (hkey : key.Regular)
    (v : Yaml) : get? (es.put k v) key = if sameKey k key then some v else get? es key := by
  induction es with
  | nil => rw [put, get?_cons]
  | cons e es ih =>
    obtain ⟨k', w⟩ := e
    obtain ⟨hk', hes⟩ := List.forall_mem_cons.mp hes
    rw [put]
    cases h : sameKey k' k with
    | true =>
      have hiff : sameKey k' key = sameKey k key := Bool.eq_iff_iff.mpr
        ⟨sameKey_trans hk hk' hkey (sameKey_symm hk' hk h), sameKey_trans hk' hk hkey h⟩
      rw [if_pos rfl, get?_cons, get?_cons, hiff]
      split <;> rfl
    | false =>
      rw [if_neg Bool.false_ne_true, get?_cons, get?_cons, ih hes]
      cases h' : sameKey k key with
      | true =>
        have hother : sameKey k' key = false := by
          by_contra hsame
          rw [sameKey_trans hk' hkey hk (eq_true_of_ne_false hsame) (sameKey_symm hk hkey h')] at h
          cases h
        simp [hother]
      | false => simp

/-- What is found under a text after another text is set. -/
theorem field?_put (es : Entries) (k s : String) (v : Yaml) :
    (es.put (.str k) v).field? s = if k = s then some v else es.field? s := by
  simp only [field?]
  have hkeys : sameKey (.str k) (.str s) = true ↔ k = s := by simp [sameKey_str_iff]
  induction es with
  | nil =>
    rw [put, get?_cons]
    simp only [hkeys]
  | cons e es ih =>
    obtain ⟨k', w⟩ := e
    rw [put]
    by_cases hk : sameKey k' (.str k) = true
    · obtain rfl := sameKey_str_iff.mp hk
      rw [if_pos hk, get?_cons, get?_cons]
      simp only [hkeys]
      split <;> rfl
    · rw [if_neg hk, get?_cons, get?_cons, ih]
      by_cases hks : k = s
      · subst hks
        rw [if_neg hk, if_pos rfl, if_pos rfl]
      · rw [if_neg hks, if_neg hks]

/-- Setting a key to what it holds changes nothing. -/
theorem put_of_get? {es : Entries} {k v : Yaml} (h : get? es k = some v) : es.put k v = es := by
  induction es with
  | nil => cases h
  | cons e es ih =>
    obtain ⟨k', w⟩ := e
    rw [get?_cons] at h
    rw [put]
    split at h
    · obtain rfl : w = v := Option.some.inj h
      rw [if_pos ‹_›]
    · rw [if_neg ‹_›, ih h]

theorem put_of_get?_eq_none {es : Entries} {k : Yaml} (h : get? es k = none) (v : Yaml) :
    es.put k v = es ++ [(k, v)] := by
  induction es with
  | nil => rfl
  | cons e es ih =>
    obtain ⟨hhead, htail⟩ := List.forall_mem_cons.mp (get?_eq_none_iff.mp h)
    rw [put, if_neg (Bool.eq_false_iff.mp hhead), ih (get?_eq_none_iff.mpr htail), List.cons_append]

theorem map_fst_put {es : Entries} {k w : Yaml} (h : get? es k = some w) (v : Yaml) :
    (es.put k v).map Prod.fst = es.map Prod.fst := by
  induction es with
  | nil => cases h
  | cons e es ih =>
    obtain ⟨k', w'⟩ := e
    rw [get?_cons] at h
    rw [put]
    split at h
    · rw [if_pos ‹_›]
      rfl
    · rw [if_neg ‹_›, List.map_cons, List.map_cons, ih h]

theorem distinct_iff {es : Entries} : es.Distinct ↔ (es.map Prod.fst).Pairwise fun k k' => sameKey k k' = false := by
  rw [Distinct, List.pairwise_map]

theorem Distinct.put {es : Entries} (hd : es.Distinct) (k v : Yaml) : Distinct (es.put k v) := by
  cases h : get? es k with
  | some w => rwa [distinct_iff, map_fst_put h, ← distinct_iff]
  | none =>
    rw [put_of_get?_eq_none h]
    refine List.pairwise_append.mpr ⟨hd, List.pairwise_singleton _ _, fun e he e' he' => ?_⟩
    obtain rfl := List.mem_singleton.mp he'
    exact get?_eq_none_iff.mp h e he

end Entries

theorem Regular.keys {es : Entries} (h : Regular (.map es)) : es.KeysRegular :=
  fun e he => (regularEntries_iff.mp h.2 e he).1

theorem Regular.get? {es : Entries} {k v : Yaml} (h : Regular (.map es)) (hv : es.get? k = some v) : v.Regular := by
  obtain ⟨k', hmem, -⟩ := Entries.mem_of_get? hv
  exact (regularEntries_iff.mp h.2 _ hmem).2

theorem Regular.put {es : Entries} {k v : Yaml} (h : Regular (.map es)) (hk : k.Regular) (hv : v.Regular) :
    Regular (.map (es.put k v)) := by
  refine ⟨h.1.put k v, regularEntries_iff.mpr fun e he => ?_⟩
  obtain he' | ⟨rfl, -⟩ := Entries.mem_put he
  · exact regularEntries_iff.mp h.2 e he'
  · exact ⟨h.keys.put hk _ e he, hv⟩

/-! ## One mapping over another -/

def entriesAt : Option Yaml → Entries
  | some (.map es) => es
  | _ => []

theorem overlayAt_none (v : Yaml) : overlayAt none v = v := by
  cases v <;> simp [overlayAt]

/-- **What an overlay holds under a key.** -/
theorem Entries.get?_overlay {below above : Entries} {key : Yaml} (hb : below.KeysRegular) (ha : above.KeysRegular)
    (hd : above.Distinct) (hkey : key.Regular) :
    (below.overlay above).get? key =
      match above.get? key with
      | some v => some (overlayAt (below.get? key) v)
      | none => below.get? key := by
  -- by induction on the upper mapping, whose first entry is in the lower one when the rest is laid over it
  induction above generalizing below with
  | nil => simp [Entries.overlay, Entries.get?]
  | cons e above ih =>
    obtain ⟨k, v⟩ := e
    obtain ⟨hk, ha⟩ := List.forall_mem_cons.mp ha
    obtain ⟨hhead, hd⟩ := List.pairwise_cons.mp hd
    rw [Entries.overlay, ih (hb.put hk _) ha hd, get?_put hb hk hkey, get?_cons]
    cases h : sameKey k key with
    | false => simp
    | true =>
      have hrest : get? above key = none := get?_eq_none_iff.mpr fun e he => by
        by_contra hsame
        have hback := sameKey_symm (ha e he) hkey (eq_true_of_ne_false hsame)
        exact Bool.false_ne_true ((hhead e he).symm.trans (sameKey_trans hk hkey (ha e he) h hback))
      simp [hrest, get?_congr hb hk hkey h]

mutual
theorem Regular.overlayAt : ∀ {above : Yaml} {below : Option Yaml}, above.Regular → (∀ w ∈ below, w.Regular) →
    (Yaml.overlayAt below above).Regular
  | .map es, below, ha, hb => by
    cases below with
    | none => simpa [Yaml.overlayAt] using ha
    | some w =>
      cases w with
      | map es' =>
        rw [Yaml.overlayAt]
        exact Regular.overlay (hb _ rfl) ha.2
      | _ => simpa [Yaml.overlayAt] using ha
  | .null, _, ha, _ | .bool _, _, ha, _ | .int _, _, ha, _ | .float _, _, ha, _ | .str _, _, ha, _ | .codes _, _, ha, _
  | .bytes _, _, ha, _ | .time _, _, ha, _ | .seq _, _, ha, _ | .set _, _, ha, _ | .pair _ _, _, ha, _ => by
    simpa [Yaml.overlayAt] using ha
theorem Regular.overlay : ∀ {above : List (Yaml × Yaml)} {below : Entries}, Regular (.map below) →
    RegularEntries above → Regular (.map (below.overlay above))
  | [], _, hb, _ => by rwa [Entries.overlay]
  | (k, v) :: es, below, hb, ha => by
    rw [Entries.overlay]
    exact Regular.overlay (hb.put ha.1.1 (Regular.overlayAt ha.1.2 fun w hw => hb.get? hw)) ha.2
end

/-- A mapping laid over one with other keys follows it. -/
theorem Entries.overlay_of_apart {below above : Entries} (hd : above.Distinct)
    (h : ∀ e ∈ below, ∀ e' ∈ above, sameKey e.1 e'.1 = false) : below.overlay above = below ++ above := by
  induction above generalizing below with
  | nil => simp [Entries.overlay]
  | cons e above ih =>
    obtain ⟨k, v⟩ := e
    obtain ⟨hhead, hd⟩ := List.pairwise_cons.mp hd
    have hnone : get? below k = none := get?_eq_none_iff.mpr fun e he => h e he _ List.mem_cons_self
    have hrest : ∀ e ∈ below ++ [(k, v)], ∀ e' ∈ above, sameKey e.1 e'.1 = false := by
      intro e he e' he'
      obtain he | he := List.mem_append.mp he
      · exact h e he e' (List.mem_cons_of_mem _ he')
      · obtain rfl := List.mem_singleton.mp he
        exact hhead e' he'
    rw [Entries.overlay, hnone, overlayAt_none, put_of_get?_eq_none hnone, ih hd hrest]
    simp

theorem Entries.nil_overlay {above : Entries} (hd : above.Distinct) : Entries.overlay [] above = above :=
  overlay_of_apart hd (by simp)

/-- A mapping is laid over the entries that are there; where there is no mapping these are none. -/
theorem overlayAt_map (below : Option Yaml) {es : Entries} (hd : es.Distinct) :
    overlayAt below (.map es) = .map ((entriesAt below).overlay es) := by
  cases below with
  | none => simp [overlayAt, entriesAt, Entries.nil_overlay hd]
  | some v =>
    cases v with
    | map es' => simp [overlayAt, entriesAt]
    | _ => simp [overlayAt, entriesAt, Entries.nil_overlay hd]

/-! ## Paths -/

/-- What a value holds at a path of keys, reached through mappings only. -/
def at? : Yaml → List Yaml → Option Yaml
  | v, [] => some v
  | .map es, k :: p => (Entries.get? es k).bind fun v => v.at? p
  | _, _ :: _ => none

def IsMapping : Yaml → Prop
  | .map _ => True
  | _ => False

/-- Something that is no mapping stands on the way to a path: at a proper beginning of it. -/
def Blocks (v : Yaml) (p : List Yaml) : Prop :=
  ∃ q w, q <+: p ∧ q ≠ p ∧ v.at? q = some w ∧ ¬ w.IsMapping

/-- What is seen of a value without a look into it: all of it, unless it is a mapping. -/
def outline? : Yaml → Option Yaml
  | .map _ => none
  | v => some v

@[simp] theorem at?_nil (v : Yaml) : v.at? [] = some v := by
  cases v <;> simp [at?]

theorem at?_map (es : Entries) (k : Yaml) (p : List Yaml) :
    at? (.map es) (k :: p) = (es.get? k).bind fun v => v.at? p := by
  rw [at?]

theorem Regular.at? {v w : Yaml} {p : List Yaml} (hv : v.Regular) (h : v.at? p = some w) : w.Regular := by
  induction p generalizing v with
  | nil =>
    obtain rfl : v = w := by simpa using h
    exact hv
  | cons k p ih =>
    cases v with
    | map es =>
      rw [at?_map] at h
      obtain ⟨u, hu, hw⟩ := Option.bind_eq_some_iff.mp h
      exact ih (hv.get? hu) hw
    | _ => simp [Yaml.at?] at h

theorem overlayAt_of_not_mapping {v : Yaml} (h : ¬ v.IsMapping) (below : Option Yaml) : overlayAt below v = v := by
  cases v with
  | map es => exact absurd trivial h
  | _ => simp [overlayAt]

/-- Whatever is laid over something that is no mapping stays as it is. -/
theorem overlayAt_some_of_not_mapping {w : Yaml} (h : ¬ w.IsMapping) (v : Yaml) : overlayAt (some w) v = v := by
  cases v with
  | map es =>
    cases w with
    | map es' => exact absurd trivial h
    | _ => simp [overlayAt]
  | _ => simp [overlayAt]

theorem isMapping_overlayAt {below : Option Yaml} {v : Yaml} : (overlayAt below v).IsMapping ↔ v.IsMapping := by
  cases v with
  | map es =>
    cases below with
    | none => rw [overlayAt_none]
    | some w => cases w <;> simp [overlayAt, IsMapping]
  | _ => simp [overlayAt]

/-- The way through a value that may be there starts with one of its entries. -/
theorem bind_at?_cons (v : Option Yaml) (k : Yaml) (p : List Yaml) :
    v.bind (·.at? (k :: p)) = ((entriesAt v).get? k).bind (·.at? p) := by
  cases v with
  | none => rfl
  | some v =>
    cases v with
    | map es => rw [Option.bind_some, at?_map, entriesAt]
    | _ => simp [at?, entriesAt, Entries.get?]

theorem not_blocks_nil (v : Yaml) : ¬ v.Blocks [] := by
  rintro ⟨q, w, hq, hne, -, -⟩
  exact hne (List.prefix_nil.mp hq)

theorem blocks_of_not_mapping {v : Yaml} (h : ¬ v.IsMapping) (k : Yaml) (p : List Yaml) : v.Blocks (k :: p) :=
  ⟨[], v, List.nil_prefix, by simp, at?_nil v, h⟩

/-- On the way through a mapping stands what stands on the rest of the way. -/
theorem blocks_map {es : Entries} {k : Yaml} {p : List Yaml} :
    Blocks (.map es) (k :: p) ↔ ∃ v, es.get? k = some v ∧ v.Blocks p := by
  constructor
  · rintro ⟨q, w, hq, hne, hw, hno⟩
    cases q with
    | nil =>
      obtain rfl : Yaml.map es = w := by simpa using hw
      exact absurd trivial hno
    | cons k' q =>
      obtain ⟨rfl, hrest⟩ := List.cons_prefix_cons.mp hq
      rw [at?_map] at hw
      obtain ⟨v, hv, hw⟩ := Option.bind_eq_some_iff.mp hw
      exact ⟨v, hv, q, w, hrest, fun h => hne (by rw [h]), hw, hno⟩
  · rintro ⟨v, hv, q, w, hq, hne, hw, hno⟩
    refine ⟨k :: q, w, List.cons_prefix_cons.mpr ⟨rfl, hq⟩, fun h => hne (List.cons.inj h).2, ?_, hno⟩
    rw [at?_map, hv]
    exact hw

/-! ## The overlay path by path -/

theorem Regular.entriesAt {v : Option Yaml} (h : ∀ w ∈ v, w.Regular) : Regular (.map (entriesAt v)) := by
  have hempty : Regular (.map []) := ⟨List.Pairwise.nil, trivial⟩
  cases v with
  | none => exact hempty
  | some v =>
    cases v with
    | map es => exact h _ rfl
    | _ => exact hempty

/-- **One step of a path.** Under a key of the upper mapping the rest of the way goes through what is laid over the
lower value there, under any other key through the lower mapping alone. -/
theorem at?_overlayAt_map {below : Option Yaml} {es : Entries} {k : Yaml} (p : List Yaml)
    (hb : ∀ w ∈ below, w.Regular) (ha : Regular (.map es)) (hk : k.Regular) :
    (overlayAt below (.map es)).at? (k :: p) =
      match es.get? k with
      | some v => (overlayAt ((entriesAt below).get? k) v).at? p
      | none => below.bind (·.at? (k :: p)) := by
  rw [overlayAt_map below ha.1, at?_map, Entries.get?_overlay (Regular.entriesAt hb).keys ha.keys ha.1 hk,
    bind_at?_cons]
  cases es.get? k with
  | none => rfl
  | some v => rfl

theorem Regular.get?_entriesAt {below : Option Yaml} (hb : ∀ w ∈ below, w.Regular) (k : Yaml) :
    ∀ w ∈ (Yaml.entriesAt below).get? k, w.Regular :=
  fun _ hw => (Regular.entriesAt hb).get? hw

/-- Where the upper value holds something, that is laid over what the lower one holds there. -/
theorem at?_overlayAt {below : Option Yaml} {above w : Yaml} {p : List Yaml} (hb : ∀ w ∈ below, w.Regular)
    (ha : above.Regular) (hp : RegularItems p) (h : above.at? p = some w) :
    (overlayAt below above).at? p = some (overlayAt (below.bind (·.at? p)) w) := by
  induction p generalizing below above with
  | nil =>
    obtain rfl : above = w := by simpa using h
    simp
  | cons k p ih =>
    cases above with
    | map es =>
      rw [at?_map] at h
      obtain ⟨v, hv, hw⟩ := Option.bind_eq_some_iff.mp h
      rw [at?_overlayAt_map p hb ha hp.1, hv, bind_at?_cons]
      exact ih (Regular.get?_entriesAt hb k) (ha.get? hv) hp.2 hw
    | _ => simp [at?] at h

/-- Where the upper value holds nothing, and nothing stands in the way, the lower one shows. -/
theorem at?_overlayAt_of_not_blocks {below : Option Yaml} {above : Yaml} {p : List Yaml} (hb : ∀ w ∈ below, w.Regular)
    (ha : above.Regular) (hp : RegularItems p) (h : above.at? p = none) (hfree : ¬ above.Blocks p) :
    (overlayAt below above).at? p = below.bind (·.at? p) := by
  induction p generalizing below above with
  | nil => simp at h
  | cons k p ih =>
    cases above with
    | map es =>
      rw [at?_overlayAt_map p hb ha hp.1]
      cases hv : Entries.get? es k with
      | none => rfl
      | some v =>
        rw [bind_at?_cons]
        rw [at?_map, hv] at h
        exact ih (Regular.get?_entriesAt hb k) (ha.get? hv) hp.2 h fun hblock => hfree (blocks_map.mpr ⟨v, hv, hblock⟩)
    | _ => exact absurd (blocks_of_not_mapping id k p) hfree

/-- Nothing is held behind something that is no mapping. -/
theorem at?_overlayAt_of_blocks {below : Option Yaml} {above : Yaml} {p : List Yaml} (hb : ∀ w ∈ below, w.Regular)
    (ha : above.Regular) (hp : RegularItems p) (h : above.Blocks p) : (overlayAt below above).at? p = none := by
  induction p generalizing below above with
  | nil => exact absurd h (not_blocks_nil above)
  | cons k p ih =>
    cases above with
    | map es =>
      obtain ⟨v, hv, hblock⟩ := blocks_map.mp h
      rw [at?_overlayAt_map p hb ha hp.1, hv]
      exact ih (Regular.get?_entriesAt hb k) (ha.get? hv) hp.2 hblock
    | _ => simp [overlayAt, at?]

/-! ## The same overlay once more -/

mutual
/-- Every key of a mapping in a value equals itself, as all do that are or hold no NaN. -/
def Findable : Yaml → Prop
  | .map entries => FindableEntries entries
  | _ => True
def FindableEntries : List (Yaml × Yaml) → Prop
  | [] => True
  | (k, v) :: es => (sameKey k k = true ∧ Findable v) ∧ FindableEntries es
end

theorem findableEntries_iff {es : Entries} :
    FindableEntries es ↔ ∀ e ∈ es, sameKey e.1 e.1 = true ∧ e.2.Findable := by
  induction es with
  | nil => simp [FindableEntries]
  | cons e es ih =>
    obtain ⟨k, v⟩ := e
    rw [FindableEntries, ih, List.forall_mem_cons]

/-- A mapping stays as it is if it holds, under each key of the upper one, what absorbs the value there. -/
theorem Entries.overlay_eq_self {below above : Entries}
    (h : ∀ e ∈ above, ∃ w, below.get? e.1 = some w ∧ overlayAt (some w) e.2 = w) : below.overlay above = below := by
  induction above with
  | nil => rw [Entries.overlay]
  | cons e above ih =>
    obtain ⟨k, v⟩ := e
    obtain ⟨⟨w, hw, habsorb⟩, h⟩ := List.forall_mem_cons.mp h
    rw [Entries.overlay, hw, habsorb, put_of_get? hw, ih h]

mutual
/-- **A value laid over once more changes nothing.** -/
theorem overlayAt_overlayAt : ∀ {above : Yaml} {below : Option Yaml}, above.Regular → above.Findable →
    (∀ w ∈ below, w.Regular) → overlayAt (some (overlayAt below above)) above = overlayAt below above
  | .map es, below, ha, hf, hb => by
    have hkeys := (Regular.entriesAt hb).keys
    have hin : ∀ e ∈ es, ∃ w, ((entriesAt below).overlay es).get? e.1 = some w ∧ overlayAt (some w) e.2 = w := by
      intro e he
      have hk := (regularEntries_iff.mp ha.2 e he).1
      have hv := Entries.get?_of_mem ha.keys ha.1 he (findableEntries_iff.mp hf e he).1
      refine ⟨overlayAt ((entriesAt below).get? e.1) e.2, ?_, ?_⟩
      · rw [Entries.get?_overlay hkeys ha.keys ha.1 hk, hv]
      · exact overlayEntries_overlayEntries ha.2 hf e he (Regular.get?_entriesAt hb e.1)
    rw [overlayAt_map below ha.1, overlayAt_map _ ha.1, entriesAt, Entries.overlay_eq_self hin]
  | .null, _, _, _, _ | .bool _, _, _, _, _ | .int _, _, _, _, _ | .float _, _, _, _, _ | .str _, _, _, _, _
  | .codes _, _, _, _, _ | .bytes _, _, _, _, _ | .time _, _, _, _, _ | .seq _, _, _, _, _ | .set _, _, _, _, _
  | .pair _ _, _, _, _, _ => by simp [overlayAt]
theorem overlayEntries_overlayEntries : ∀ {es : List (Yaml × Yaml)}, RegularEntries es → FindableEntries es →
    ∀ e ∈ es, ∀ {below : Option Yaml}, (∀ w ∈ below, w.Regular) →
      overlayAt (some (overlayAt below e.2)) e.2 = overlayAt below e.2
  | [], _, _, _, he, _, _ => by cases he
  | (k, v) :: es, ha, hf, e, he, _, hb => by
    obtain rfl | he := List.mem_cons.mp he
    · exact overlayAt_overlayAt ha.1.2 hf.1.2 hb
    · exact overlayEntries_overlayEntries ha.2 hf.2 e he hb
end

theorem outline?_overlayAt (below : Option Yaml) (v : Yaml) : (overlayAt below v).outline? = v.outline? := by
  cases v with
  | map es =>
    cases below with
    | none => rw [overlayAt_none]
    | some w => cases w <;> simp [overlayAt, outline?]
  | _ => simp [overlayAt]

/-- Every path shows the same when the overlay is laid over once more. -/
theorem outline?_overlayAt_overlayAt {below : Option Yaml} {above : Yaml} {p : List Yaml}
    (hb : ∀ w ∈ below, w.Regular) (ha : above.Regular) (hp : RegularItems p) :
    ((overlayAt (some (overlayAt below above)) above).at? p).map outline? =
      ((overlayAt below above).at? p).map outline? := by
  have honce : ∀ w ∈ some (overlayAt below above), w.Regular := fun w hw => Option.some.inj hw ▸ ha.overlayAt hb
  cases h : above.at? p with
  | some v =>
    rw [at?_overlayAt honce ha hp h, at?_overlayAt hb ha hp h, Option.map_some, Option.map_some, outline?_overlayAt,
      outline?_overlayAt]
  | none =>
    by_cases hblock : above.Blocks p
    · rw [at?_overlayAt_of_blocks honce ha hp hblock, at?_overlayAt_of_blocks hb ha hp hblock]
    · rw [at?_overlayAt_of_not_blocks honce ha hp h hblock, Option.bind_some]

/-- **An overlay overrides path by path.** What the upper mapping holds at a path, if it is no mapping, the overlay
holds there. Where the upper one holds nothing, and has nothing but mappings on the way, the overlay holds what the
lower one does. There are no other paths. Laid over once more it shows the same everywhere, and it is the very same
mapping if all keys above equal themselves; an empty mapping changes nothing above or below. -/
theorem overlay_pathwise {below above : Entries} (hb : Regular (.map below)) (ha : Regular (.map above)) :
    (∀ p v, RegularItems p → at? (.map above) p = some v → ¬ v.IsMapping →
      at? (.map (below.overlay above)) p = some v) ∧
    (∀ p, RegularItems p → at? (.map above) p = none → ¬ Blocks (.map above) p →
      at? (.map (below.overlay above)) p = at? (.map below) p) ∧
    (∀ p, RegularItems p → at? (.map (below.overlay above)) p ≠ none →
      at? (.map below) p ≠ none ∨ at? (.map above) p ≠ none) ∧
    (∀ p, RegularItems p →
      (at? (.map ((below.overlay above).overlay above)) p).map outline? =
        (at? (.map (below.overlay above)) p).map outline?) ∧
    (Findable (.map above) → (below.overlay above).overlay above = below.overlay above) ∧
    below.overlay [] = below ∧ Entries.overlay [] above = above := by
  have hover : overlayAt (some (.map below)) (.map above) = .map (below.overlay above) := by rw [overlayAt]
  have htwice : overlayAt (some (.map (below.overlay above))) (.map above) =
    .map ((below.overlay above).overlay above) := by rw [overlayAt]
  have hb' : ∀ w ∈ some (Yaml.map below), w.Regular := fun w hw => Option.some.inj hw ▸ hb
  refine ⟨fun p v hp hv hno => ?_, fun p hp hnone hfree => ?_, fun p hp hsome => ?_, fun p hp => ?_, fun hf => ?_, ?_,
    Entries.nil_overlay ha.1⟩
  · rw [← hover, at?_overlayAt hb' ha hp hv, overlayAt_of_not_mapping hno]
  · rw [← hover, at?_overlayAt_of_not_blocks hb' ha hp hnone hfree, Option.bind_some]
  · by_contra hneither
    obtain ⟨hbelow, habove⟩ := not_or.mp hneither
    rw [not_not] at hbelow habove
    apply hsome
    rw [← hover]
    by_cases hblock : Blocks (.map above) p
    · exact at?_overlayAt_of_blocks hb' ha hp hblock
    · rw [at?_overlayAt_of_not_blocks hb' ha hp habove hblock, Option.bind_some, hbelow]
  · rw [← htwice, ← hover]
    exact outline?_overlayAt_overlayAt hb' ha hp
  · have htop := overlayAt_overlayAt ha hf hb'
    rw [hover, htwice] at htop
    exact Yaml.map.inj htop
  · rw [Entries.overlay]

/-- A mapping meets a mapping under `a`, where the upper value of `x` stays and the lower one of `y` shows, and it meets
a number under `b`. -/
theorem overlay_pathwise_nested :
    let below : Entries :=
      [(.str "a", .map [(.str "x", .int 1), (.str "y", .int 2)]), (.str "b", .map [(.str "c", .int 3)])]
    let above : Entries := [(.str "a", .map [(.str "x", .int 5)]), (.str "b", .int 4)]
    Regular (.map below) ∧ Regular (.map above) ∧
      at? (.map (below.overlay above)) [.str "a", .str "x"] = some (.int 5) ∧
      at? (.map (below.overlay above)) [.str "a", .str "y"] = some (.int 2) ∧
      at? (.map (below.overlay above)) [.str "b"] = some (.int 4) ∧
      (below.overlay above).overlay above = below.overlay above := by
  intro below above
  have hb : Regular (.map below) := by simp [below, Regular, RegularEntries, Entries.Distinct, sameKey]
  have ha : Regular (.map above) := by simp [above, Regular, RegularEntries, Entries.Distinct, sameKey]
  have hpath (p q : String) : RegularItems [.str p, .str q] := ⟨trivial, trivial, trivial⟩
  obtain ⟨hwrites, hshows, -, -, hagain, -⟩ := overlay_pathwise hb ha
  refine ⟨hb, ha, hwrites _ _ (hpath "a" "x") (by simp [above, at?, Entries.get?, sameKey]) id, ?_,
    hwrites _ _ ⟨trivial, trivial⟩ (by simp [above, at?, Entries.get?, sameKey]) id,
    hagain (by simp [above, Findable, FindableEntries, sameKey])⟩
  rw [hshows _ (hpath "a" "y") (by simp [above, at?, Entries.get?, sameKey])]
  · simp [below, at?, Entries.get?, sameKey]
  · -- on the way stand the upper mapping itself and the mapping under `a`
    rw [blocks_map]
    rintro ⟨v, hv, hblock⟩
    obtain rfl : Yaml.map [(.str "x", .int 5)] = v := by simpa [above, Entries.get?, sameKey] using hv
    rw [blocks_map] at hblock
    simp [Entries.get?, sameKey] at hblock

end ScenarioAudit.Yaml
