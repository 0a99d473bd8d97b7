import Mathlib.Data.List.Forall2
import ScenarioAudit.Proofs.Pattern.Local

/-! # The places of all matches

Every match in a text starts at a place of that text (`exists_between`). If the first matches of two texts are related,
and so are the places behind them, then all matches are, one by one (`forall₂_allAfter`).
-/

namespace ScenarioAudit.Pattern

open ScenarioAudit.Text

variable {p : Pattern}

def PlaceOf (text : List Char) (s : Spot) : Prop :=
  ∃ u, Skipped u (Spot.start text) s

theorem placeOf_start (text : List Char) : PlaceOf text (Spot.start text) :=
  ⟨[], .refl _⟩

theorem PlaceOf.stop {text : List Char} {s : Spot} (h : PlaceOf text s) {m : Match} (hm : p.findAfter s = some m) :
    PlaceOf text m.stop := by
  obtain ⟨u, v, hs, hmatch, -⟩ := findAfter_eq_some hm
  obtain ⟨-, hreaches⟩ := reaches_of_matchAt hmatch
  obtain ⟨w, hw⟩ := h
  obtain ⟨x, hx⟩ := hreaches.exists_skipped
  exact ⟨w ++ u ++ x, (hw.trans (skipped_skip hs)).trans hx⟩

def spotAt (text : List Char) (i : Nat) : Spot :=
  .between (text.take i) (text.drop i)

theorem length_after {text : List Char} {i : Nat} {m : Match} (hi : i ≤ text.length)
    (hm : p.matchAt (spotAt text i) = some m) :
    m.start.position = i ∧ i ≤ m.stop.position ∧ m.stop.after.length + m.stop.position = text.length := by
  obtain ⟨hstart, hreaches⟩ := reaches_of_matchAt hm
  obtain ⟨x, hafter, -, hposition⟩ := hreaches.exists_skipped
  have hafter : text.drop i = x ++ m.stop.after := hafter
  have hposition : m.stop.position = (text.take i).length + x.length := hposition
  have hstart : m.start.position = (text.take i).length := by
    rw [hstart]
    rfl
  have hlength := congrArg List.length hafter
  rw [List.length_append, List.length_drop] at hlength
  rw [List.length_take_of_le hi] at hposition hstart
  exact ⟨hstart, by omega, by omega⟩

theorem PlaceOf.forget_skip {text : List Char} {s : Spot} (h : PlaceOf text s) {u v : List Char}
    (hs : s.after = u ++ v) :
    (s.skip u v).forget = spotAt text (s.position + u.length) ∧ s.position + u.length ≤ text.length := by
  obtain ⟨w, hafter, hbefore, hposition⟩ := h
  have htext : text = w ++ u ++ v := by
    rw [List.append_assoc, ← hs]
    exact hafter
  have hposition : s.position = w.length := hposition.trans (Nat.zero_add _)
  have hbefore : s.before = w.reverse := hbefore.trans (List.append_nil _)
  have hlength : s.position + u.length = (w ++ u).length := by rw [hposition, List.length_append]
  rw [hlength, htext]
  constructor
  · rw [spotAt, List.take_left, List.drop_left]
    simp [Spot.skip, Spot.forget, Spot.between, hbefore, hposition]
  · exact (List.prefix_append _ _).length_le

theorem PlaceOf.exists_spotAt {text : List Char} {s : Spot} (h : PlaceOf text s) {m : Match}
    (hm : p.findAfter s = some m) :
    ∃ i, s.position ≤ i ∧ i ≤ text.length ∧ p.matchAt (spotAt text i) = some m := by
  obtain ⟨u, v, hs, hmatch, -⟩ := findAfter_eq_some hm
  obtain ⟨hplace, hle⟩ := h.forget_skip hs
  refine ⟨s.position + u.length, Nat.le_add_right _ _, hle, ?_⟩
  rw [← hmatch, ← hplace]
  exact matchAt_congr rfl

theorem PlaceOf.findAfter_le {text : List Char} {s : Spot} (h : PlaceOf text s) {i : Nat} (hle : s.position ≤ i)
    (hi : i ≤ text.length) (hsome : (p.matchAt (spotAt text i)).isSome) :
    ∃ m, p.findAfter s = some m ∧ m.start.position ≤ i := by
  obtain ⟨d, rfl⟩ := Nat.exists_eq_add_of_le hle
  have hsplit : s.after = s.after.take d ++ s.after.drop d := (List.take_append_drop d s.after).symm
  obtain ⟨w, hafter, -, hposition⟩ := id h
  have hlength : text.length = w.length + s.after.length := by
    rw [← List.length_append]
    exact congrArg List.length hafter
  have hposition : s.position = w.length := hposition.trans (Nat.zero_add _)
  have hd : (s.after.take d).length = d := List.length_take_of_le (by omega)
  obtain ⟨hplace, -⟩ := h.forget_skip hsplit
  rw [hd] at hplace
  obtain ⟨t, ht⟩ := matchAt_isSome.mp hsome
  have ht : p.Reaches (s.skip (s.after.take d) (s.after.drop d)).forget t := by
    rw [hplace]
    exact ht
  obtain ⟨m, hm⟩ := Option.isSome_iff_exists.mp ((findFrom_isSome rfl).mpr ⟨_, _, hsplit, t, ht⟩)
  obtain ⟨u, v, hs, hmatch, hmin⟩ := findAfter_eq_some hm
  refine ⟨m, hm, ?_⟩
  have hfirst := hmin _ _ t hsplit ht
  rw [hd] at hfirst
  rw [(reaches_of_matchAt hmatch).1]
  show s.position + u.length ≤ s.position + d
  omega

/-- **Every match starts at a place of the text** and is the match there. -/
theorem exists_between {text : List Char} {m : Match} (h : m ∈ p.findAll text) :
    ∃ u v, text = u ++ v ∧ m.start = .between u v ∧ p.matchAt (.between u v) = some m := by
  rw [findAll] at h
  generalize text.length + 1 = fuel at h
  have hplace := placeOf_start text
  generalize Spot.start text = s at h hplace
  induction fuel generalizing s with
  | zero => cases h
  | succ fuel ih =>
    rw [findAllAfter] at h
    cases hfind : p.findAfter s with
    | none =>
      rw [hfind] at h
      cases h
    | some first =>
      have hstop := hplace.stop hfind
      simp only [hfind] at h
      have hrest : m = first ∨ ∃ s', PlaceOf text s' ∧ m ∈ p.findAllAfter fuel s' := by
        split at h
        · exact (List.mem_cons.mp h).imp_right fun h => ⟨_, hstop, h⟩
        · cases hafter : first.stop.after with
          | nil =>
            rw [hafter] at h
            exact Or.inl (List.mem_singleton.mp h)
          | cons c rest =>
            rw [hafter] at h
            obtain ⟨w, hw⟩ := hstop
            have hnext : PlaceOf text (first.stop.next c rest) := ⟨w ++ [c], hw.trans (skipped_next hafter)⟩
            exact (List.mem_cons.mp h).imp_right fun h => ⟨_, hnext, h⟩
      rcases hrest with rfl | ⟨s', hs', hm⟩
      · obtain ⟨i, -, -, hmatch⟩ := hplace.exists_spotAt hfind
        exact ⟨text.take i, text.drop i, (List.take_append_drop i text).symm, (reaches_of_matchAt hmatch).1, hmatch⟩
      · exact ih s' hm hs'

theorem forall₂_getElem? {α β : Type} {R : α → β → Prop} {l : List α} {l' : List β} (h : List.Forall₂ R l l') (i : Nat) :
    (l[i]? = none ∧ l'[i]? = none) ∨ ∃ a b, l[i]? = some a ∧ l'[i]? = some b ∧ R a b := by
  induction h generalizing i with
  | nil => exact Or.inl ⟨rfl, rfl⟩
  | cons hR _ ih =>
    cases i with
    | zero => exact Or.inr ⟨_, _, rfl, rfl, hR⟩
    | succ i => exact ih i

theorem lt_of_matchAt (hp : p.grows = true) {s : Spot} {m : Match} (h : p.matchAt s = some m) :
    m.start.position < m.stop.position := by
  obtain ⟨hstart, hreaches⟩ := reaches_of_matchAt h
  obtain ⟨x, hx⟩ := hreaches.exists_skipped
  have hpositive := List.length_pos_iff.mpr (ne_nil_of_grows hp hreaches hx)
  rw [hstart, hx.2.2]
  omega

theorem lt_of_grows (hp : p.grows = true) {s : Spot} {m : Match} (h : p.findAfter s = some m) :
    m.start.position < m.stop.position := by
  obtain ⟨u, v, -, hm, -⟩ := findAfter_eq_some h
  exact lt_of_matchAt hp hm

theorem lt_of_mem (hp : p.grows = true) {text : List Char} {m : Match} (h : m ∈ p.findAll text) :
    m.start.position < m.stop.position := by
  obtain ⟨u, v, -, -, hm⟩ := exists_between h
  exact lt_of_matchAt hp hm

/-- **What holds of the first matches from related places on, and leads to related places, holds of all matches.** -/
theorem forall₂_allAfter (hp : p.grows = true) {R : Spot → Spot → Prop} {Q : Match → Match → Prop}
    (hstep : ∀ s s', R s s' →
      (p.findAfter s = none ∧ p.findAfter s' = none) ∨
        ∃ m m', p.findAfter s = some m ∧ p.findAfter s' = some m' ∧ Q m m' ∧ R m.stop m'.stop)
    {s s' : Spot} (h : R s s') : List.Forall₂ Q (p.allAfter s) (p.allAfter s') := by
  induction hn : s.after.length using Nat.strongRecOn generalizing s s' with
  | ind n ih =>
    rcases hstep s s' h with ⟨hnone, hnone'⟩ | ⟨m, m', hm, hm', hQ, hR⟩
    · rw [allAfter_of_none hnone, allAfter_of_none hnone']
      exact .nil
    · have hlt := lt_of_grows hp hm
      obtain ⟨hlength, -⟩ := length_stop hm
      rw [allAfter_cons hm hlt, allAfter_cons hm' (lt_of_grows hp hm')]
      exact .cons hQ (ih m.stop.after.length (by omega) hR rfl)

end ScenarioAudit.Pattern
