import ScenarioAudit.Proofs.Pattern.Places

/-! # Words that stand by themselves

A word stands by itself in a text where no other part of a word is next to it (`reaches_wholeWord`). So whether it does is
seen from the characters around it, and what comes later does not change where it is found first
(`find_wholeWord_append`).
-/

namespace ScenarioAudit.Pattern

open ScenarioAudit.Text

def IsWord (w : String) : Prop :=
  w.toList ≠ [] ∧ ∀ c ∈ w.toList, isWordChar c = true

instance (w : String) : Decidable (IsWord w) :=
  inferInstanceAs (Decidable (w.toList ≠ [] ∧ ∀ c ∈ w.toList, isWordChar c = true))

section Edges

variable {w : String} (hw : IsWord w)

include hw

theorem isEdge_before (u v : List Char) : isEdge u (w.toList ++ v) = !u.head?.any isWordChar := by
  obtain ⟨hne, hall⟩ := hw
  obtain ⟨c, l, hc⟩ := List.exists_cons_of_ne_nil hne
  have hfirst : (w.toList ++ v).head?.any isWordChar = true := by
    rw [hc]
    exact hall c (hc ▸ List.mem_cons_self)
  rw [isEdge, hfirst, Bool.bne_true]

theorem isEdge_behind (u v : List Char) : isEdge (w.toList.reverse ++ u) v = !v.head?.any isWordChar := by
  obtain ⟨hne, hall⟩ := hw
  obtain ⟨c, l, hc⟩ := List.exists_cons_of_ne_nil (List.reverse_ne_nil_iff.mpr hne)
  have hlast : (w.toList.reverse ++ u).head?.any isWordChar = true := by
    rw [hc]
    exact hall c (List.mem_reverse.mp (hc ▸ List.mem_cons_self))
  rw [isEdge, hlast, Bool.true_bne]

theorem reaches_wholeWord {s t : Spot} : (wholeWord w).Reaches s t ↔ ∃ v, s.after = w.toList ++ v ∧
    s.before.head?.any isWordChar = false ∧ v.head?.any isWordChar = false ∧ t = s.skip w.toList v := by
  constructor
  · rintro ⟨m, ⟨m', hedge, hword⟩, hend⟩
    obtain ⟨hbefore, rfl⟩ := reaches_edge.mp hedge
    obtain ⟨v, hafter, rfl⟩ := reaches_word.mp hword
    obtain ⟨hbehind, rfl⟩ := reaches_edge.mp hend
    rw [hafter, isEdge_before hw, Bool.not_eq_true'] at hbefore
    refine ⟨v, hafter, hbefore, ?_, rfl⟩
    have hbehind : isEdge (w.toList.reverse ++ m'.before) v = true := hbehind
    rwa [isEdge_behind hw, Bool.not_eq_true'] at hbehind
  · rintro ⟨v, hafter, hbefore, hbehind, rfl⟩
    refine ⟨_, ⟨s, reaches_edge.mpr ⟨?_, rfl⟩, reaches_word.mpr ⟨v, hafter, rfl⟩⟩, reaches_edge.mpr ⟨?_, rfl⟩⟩
    · rw [hafter, isEdge_before hw, hbefore, Bool.not_false]
    · show isEdge (w.toList.reverse ++ s.before) v = true
      rw [isEdge_behind hw, hbehind, Bool.not_false]

theorem occurs_wholeWord {text : List Char} : (wholeWord w).occurs text = true ↔
    ∃ u v, text = u ++ (w.toList ++ v) ∧ u.getLast?.any isWordChar = false ∧ v.head?.any isWordChar = false := by
  rw [occurs_iff]
  constructor
  · rintro ⟨u, v, htext, t, ht⟩
    obtain ⟨rest, rfl, hbefore, hbehind, -⟩ := (reaches_wholeWord hw).mp ht
    exact ⟨u, rest, htext, List.head?_reverse ▸ hbefore, hbehind⟩
  · rintro ⟨u, v, htext, hbefore, hbehind⟩
    refine ⟨u, w.toList ++ v, htext, _, (reaches_wholeWord hw).mpr ⟨v, rfl, ?_, hbehind, rfl⟩⟩
    show u.reverse.head?.any isWordChar = false
    rwa [List.head?_reverse]

/-- Whether a word stands by itself at a place is seen up to the character behind it. -/
theorem matchAt_wholeWord_append {x y z : List Char} {i : Nat} (hi : i + w.toList.length < x.length)
    (h : ((wholeWord w).matchAt (spotAt (x ++ y) i)).isSome) : ((wholeWord w).matchAt (spotAt (x ++ z) i)).isSome := by
  have hplace (y : List Char) : spotAt (x ++ y) i = .between (x.take i) (x.drop i ++ y) := by
    rw [spotAt, List.take_append_of_le_length (by omega), List.drop_append_of_le_length (by omega)]
  rw [hplace, matchAt_isSome] at h ⊢
  obtain ⟨t, ht⟩ := h
  obtain ⟨v, hafter, hbefore, hbehind, -⟩ := (reaches_wholeWord hw).mp ht
  have hafter : x.drop i ++ y = w.toList ++ v := hafter
  -- The word and a character behind it are in front of what comes later.
  obtain ⟨c, v', hx⟩ : ∃ c v', x.drop i = w.toList ++ c :: v' := by
    rcases List.append_eq_append_iff.mp hafter with ⟨a, hword, -⟩ | ⟨a, hx, -⟩
    · have hlength := congrArg List.length hword
      rw [List.length_append, List.length_drop] at hlength
      omega
    · cases a with
      | nil =>
        have hlength := congrArg List.length hx
        rw [List.length_append, List.length_drop, List.length_nil] at hlength
        omega
      | cons c a => exact ⟨c, a, hx⟩
  have hv : v = c :: (v' ++ y) := by
    rw [hx, List.append_assoc] at hafter
    exact (List.append_cancel_left hafter).symm
  refine ⟨_, (reaches_wholeWord hw).mpr ⟨c :: (v' ++ z), ?_, hbefore, ?_, rfl⟩⟩
  · show x.drop i ++ z = _
    rw [hx, List.append_assoc]
    rfl
  · rw [hv] at hbehind
    exact hbehind

/-- **What comes later does not change where a word is found first.** -/
theorem find_wholeWord_append {x y : List Char} (z : List Char) {f : Match}
    (hf : (wholeWord w).find (x ++ y) = some f) (hlt : f.stop.position < x.length) :
    ∃ f', (wholeWord w).find (x ++ z) = some f' ∧ f'.start.position = f.start.position := by
  obtain ⟨i, -, hi, hmatch⟩ := (placeOf_start (x ++ y)).exists_spotAt hf
  obtain ⟨hstart, -, -⟩ := length_after hi hmatch
  have hstop : f.stop.position = f.start.position + w.toList.length := by
    obtain ⟨hplace, hreaches⟩ := reaches_of_matchAt hmatch
    obtain ⟨v, -, -, -, ht⟩ := (reaches_wholeWord hw).mp hreaches
    rw [ht, hplace]
    rfl
  have hsome := matchAt_wholeWord_append hw (z := z) (by omega) (Option.isSome_of_eq_some hmatch)
  obtain ⟨f', hf', hle⟩ := (placeOf_start (x ++ z)).findAfter_le (Nat.zero_le i)
    (by rw [List.length_append]; omega) hsome
  refine ⟨f', hf', ?_⟩
  -- If it were found before, it would be found there in the other text as well.
  obtain ⟨j, -, hj, hmatch'⟩ := (placeOf_start (x ++ z)).exists_spotAt hf'
  obtain ⟨hstart', -, -⟩ := length_after hj hmatch'
  have hsome' := matchAt_wholeWord_append hw (z := y) (by omega) (Option.isSome_of_eq_some hmatch')
  obtain ⟨f'', hf'', hle'⟩ := (placeOf_start (x ++ y)).findAfter_le (Nat.zero_le j)
    (by rw [List.length_append]; omega) hsome'
  obtain rfl : f = f'' := Option.some.inj (hf.symm.trans hf'')
  omega

end Edges

end ScenarioAudit.Pattern
