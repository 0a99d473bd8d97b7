import ScenarioAudit.Proofs.Pattern.Absence
import ScenarioAudit.Proofs.Pattern.Widen

/-! # All matches in a text

A search passes over a piece of text in which no match starts (`findFrom_pass`), and what is before a text does not
matter to a pattern that does not test it (`allAfter_widen`). The matches after a place are the first one and those
after it (`allAfter_cons`), so each of them is computed from the one before. If no match goes beyond its line, none
hides another one that starts a line, and the last match is at the last place where there is one
(`OnOneLine.getLast_allAfter`).
-/

namespace ScenarioAudit.Pattern

open ScenarioAudit.Text

/-! ## Pieces without a match -/

/-- No match of a pattern starts in a piece of a text that is followed by the rest of it. -/
def Avoids (p : Pattern) (x rest : List Char) : Prop :=
  ∀ y z, x = y ++ z → z ≠ [] → ∀ s t, s.after = z ++ rest → ¬ p.Reaches s t

variable {p : Pattern} {x rest : List Char}

theorem avoids_nil : p.Avoids [] rest := by
  intro y z hx hz
  exact absurd (List.append_eq_nil_iff.mp hx.symm).2 hz

theorem Avoids.append {y : List Char} (hx : p.Avoids x (y ++ rest)) (hy : p.Avoids y rest) :
    p.Avoids (x ++ y) rest := by
  intro a b hab hb s t hs
  rcases List.append_eq_append_iff.mp hab with ⟨a', rfl, rfl⟩ | ⟨b', rfl, rfl⟩
  · exact hy a' b rfl hb s t hs
  · by_cases hb' : b' = []
    · subst hb'
      exact hy [] y rfl (by simpa using hb) s t (by simpa using hs)
    · rw [List.append_assoc] at hs
      exact hx a b' rfl hb' s t hs

/-- A pattern that starts with a character of a class avoids a piece without such characters. -/
theorem avoids_of_head {q : Char → Bool} (hp : ∀ s t, p.Reaches s t → s.after.head?.any q = true)
    (hx : ∀ c ∈ x, q c = false) : p.Avoids x rest := by
  intro y z hxz hz s t hs ht
  obtain ⟨c, z, rfl⟩ := List.exists_cons_of_ne_nil hz
  have hc : q c = false := hx c (by simp [hxz])
  have hhead := hp s t ht
  rw [hs] at hhead
  simp [hc] at hhead

/-- No match starts within the piece of a text that comes next. -/
def Passes (p : Pattern) (s : Spot) (x rest : List Char) : Prop :=
  ∀ y z, x = y ++ z → z ≠ [] → ∀ t, ¬ p.Reaches (s.skip y (z ++ rest)).forget t

theorem Avoids.passes (hx : p.Avoids x rest) (s : Spot) : p.Passes s x rest :=
  fun y z hyz hz t => hx y z hyz hz _ t rfl

/-- **A search passes over a piece without a match.** -/
theorem findFrom_pass {s : Spot} (hx : p.Passes s x rest) (hs : s.after = x ++ rest) :
    p.findFrom (x ++ rest) s = p.findFrom rest (s.skip x rest) := by
  induction x generalizing s with
  | nil =>
    rw [List.nil_append] at hs
    rw [List.nil_append, Spot.skip_nil hs]
  | cons c x ih =>
    have hnone : p.matchAt s = none := by
      rw [← Option.isNone_iff_eq_none, ← Option.isSome_eq_false_iff, Bool.eq_false_iff]
      intro hsome
      obtain ⟨t, ht⟩ := matchAt_isSome.mp hsome
      have hnot := hx [] (c :: x) rfl (List.cons_ne_nil c x) t
      rw [Spot.skip_nil hs] at hnot
      exact hnot ht
    rw [List.cons_append, findFrom, hnone]
    dsimp only
    rw [ih _ rfl, Spot.skip_cons]
    rintro y z rfl hz t
    rw [List.append_assoc, Spot.skip_cons]
    exact hx (c :: y) z rfl hz t

theorem findAfter_pass {s : Spot} (hx : p.Passes s x rest) (hs : s.after = x ++ rest) :
    p.findAfter s = p.findAfter (s.skip x rest) := by
  rw [findAfter, findAfter, hs, findFrom_pass hx hs]
  rfl

theorem findAfter_skip (hx : p.Avoids x rest) {s : Spot} (hs : s.after = x ++ rest) :
    p.findAfter s = p.findAfter (s.skip x rest) :=
  findAfter_pass (hx.passes s) hs

theorem findAfter_eq_none {s : Spot} (h : p.Avoids s.after []) (hend : ∀ s' t, s'.after = [] → ¬ p.Reaches s' t) :
    p.findAfter s = none := by
  rw [findAfter_skip h (List.append_nil _).symm, findAfter]
  show p.matchAt (s.skip s.after []) = none
  rw [← Option.isNone_iff_eq_none, ← Option.isSome_eq_false_iff, Bool.eq_false_iff]
  intro hsome
  obtain ⟨t, ht⟩ := matchAt_isSome.mp hsome
  exact hend _ t rfl ht

/-- Without a character that the pattern needs, nothing is found. -/
theorem findAfter_of_needs {c : Char} (hp : Needs c p) {s : Spot} (hs : c ∉ s.after) : p.findAfter s = none := by
  rw [← Option.not_isSome_iff_eq_none, findAfter, findFrom_isSome rfl]
  rintro ⟨u, v, hafter, t, ht⟩
  apply hs
  rw [hafter]
  exact List.mem_append_right u (hp _ t ht)

theorem findAfter_of_matchAt {s : Spot} {m : Match} (h : p.matchAt s = some m) : p.findAfter s = some m := by
  rw [findAfter]
  cases s.after with
  | nil => exact h
  | cons c rest => rw [findFrom, h]

/-! ## One match after the other -/

def allAfter (p : Pattern) (s : Spot) : List Match :=
  p.findAllAfter (s.after.length + 1) s

theorem findAll_eq (text : List Char) : p.findAll text = p.allAfter (Spot.start text) :=
  rfl

/-- A match leaves less of the text, or no less if it takes in nothing. -/
theorem length_stop {s : Spot} {m : Match} (h : p.findAfter s = some m) :
    m.stop.after.length + (m.stop.position - m.start.position) ≤ s.after.length ∧
      m.start.position ≤ m.stop.position := by
  obtain ⟨u, v, hs, hm, -⟩ := findAfter_eq_some h
  obtain ⟨hstart, hreaches⟩ := reaches_of_matchAt hm
  obtain ⟨x, hafter, -, hposition⟩ := hreaches.exists_skipped
  have hv : v = x ++ m.stop.after := hafter
  rw [hstart, hposition, hs, hv, List.length_append, List.length_append]
  omega

/-- How often the search may go on does not matter as long as it is more often than there are characters. -/
theorem findAllAfter_congr {fuel fuel' : Nat} {s : Spot} (h : s.after.length < fuel) (h' : s.after.length < fuel') :
    p.findAllAfter fuel s = p.findAllAfter fuel' s := by
  induction fuel generalizing fuel' s with
  | zero => exact absurd h (Nat.not_lt_zero _)
  | succ fuel ih =>
    obtain ⟨fuel', rfl⟩ : ∃ k, fuel' = k + 1 := ⟨fuel' - 1, by omega⟩
    rw [findAllAfter, findAllAfter]
    cases hfind : p.findAfter s with
    | none => rfl
    | some m =>
      obtain ⟨hlength, hle⟩ := length_stop hfind
      dsimp only
      split
      · have hrest : p.findAllAfter fuel m.stop = p.findAllAfter fuel' m.stop := ih (by omega) (by omega)
        rw [hrest]
      · cases hafter : m.stop.after with
        | nil => rfl
        | cons c rest =>
          rw [hafter, List.length_cons] at hlength
          have hnext : (m.stop.next c rest).after.length = rest.length := rfl
          have hrest : p.findAllAfter fuel (m.stop.next c rest) = p.findAllAfter fuel' (m.stop.next c rest) :=
            ih (by omega) (by omega)
          dsimp only
          rw [hrest]

theorem allAfter_of_none {s : Spot} (h : p.findAfter s = none) : p.allAfter s = [] := by
  rw [allAfter, findAllAfter, h]

/-- **The matches after a place are the first one and those after it.** -/
theorem allAfter_cons {s : Spot} {m : Match} (h : p.findAfter s = some m) (hlt : m.start.position < m.stop.position) :
    p.allAfter s = m :: p.allAfter m.stop := by
  obtain ⟨hlength, -⟩ := length_stop h
  rw [allAfter, findAllAfter, h]
  dsimp only
  rw [if_pos hlt, findAllAfter_congr (by omega) (Nat.lt_succ_self _)]
  rfl

theorem allAfter_pass {s : Spot} (hx : p.Passes s x rest) (hs : s.after = x ++ rest) :
    p.allAfter s = p.allAfter (s.skip x rest) := by
  have hlength : (s.skip x rest).after.length < s.after.length + 1 := by
    rw [hs, List.length_append]
    show rest.length < x.length + rest.length + 1
    omega
  have hfuel : p.allAfter (s.skip x rest) = p.findAllAfter (s.after.length + 1) (s.skip x rest) :=
    findAllAfter_congr (Nat.lt_succ_self _) hlength
  rw [hfuel, allAfter, findAllAfter, findAllAfter, findAfter_pass hx hs]

theorem allAfter_skip (hx : p.Avoids x rest) {s : Spot} (hs : s.after = x ++ rest) :
    p.allAfter s = p.allAfter (s.skip x rest) :=
  allAfter_pass (hx.passes s) hs

theorem allAfter_singleton {s : Spot} {m : Match} (h : p.findAfter s = some m)
    (hlt : m.start.position < m.stop.position) (hnone : p.findAfter m.stop = none) : p.allAfter s = [m] := by
  rw [allAfter_cons h hlt, allAfter_of_none hnone]

/-! ## Text before -/

theorem findFrom_widen {u : List Char} (hp : p.Closed u []) (l : List Char) (s : Spot) :
    p.findFrom l (s.widen u []) = (p.findFrom l s).map fun m => ⟨m.start.widen u [], m.stop.widen u []⟩ := by
  induction l generalizing s with
  | nil => exact matchAt_widen hp s
  | cons c l ih =>
    have hnext : (s.widen u []).next c l = (s.next c l).widen u [] := by
      rw [← widen_next, List.append_nil]
    rw [findFrom, findFrom, matchAt_widen hp, hnext]
    cases p.matchAt s with
    | none => exact ih _
    | some m => rfl

theorem findAfter_widen {u : List Char} (hp : p.Closed u []) (s : Spot) :
    p.findAfter (s.widen u []) = (p.findAfter s).map fun m => ⟨m.start.widen u [], m.stop.widen u []⟩ := by
  have hafter : (s.widen u []).after = s.after := List.append_nil _
  rw [findAfter, hafter]
  exact findFrom_widen hp s.after s

/-- **What is before a text does not matter** to the matches in it, if the pattern does not test it. -/
theorem allAfter_widen {u : List Char} (hp : p.Closed u []) (s : Spot) :
    p.allAfter (s.widen u []) = (p.allAfter s).map fun m => ⟨m.start.widen u [], m.stop.widen u []⟩ := by
  have hafter (s : Spot) : (s.widen u []).after = s.after := List.append_nil _
  rw [allAfter, allAfter, hafter]
  generalize s.after.length + 1 = fuel
  induction fuel generalizing s with
  | zero => rfl
  | succ fuel ih =>
    rw [findAllAfter, findAllAfter, findAfter_widen hp]
    cases p.findAfter s with
    | none => rfl
    | some m =>
      dsimp only [Option.map_some]
      have hlt : (m.start.widen u []).position < (m.stop.widen u []).position ↔ m.start.position < m.stop.position :=
        Nat.add_lt_add_iff_left
      simp only [hlt, hafter]
      split
      · rw [ih, List.map_cons]
      · cases m.stop.after with
        | nil => rfl
        | cons c rest =>
          have hnext : (m.stop.widen u []).next c rest = (m.stop.next c rest).widen u [] := by
            rw [← widen_next, List.append_nil]
          dsimp only
          rw [hnext, ih, List.map_cons]

/-! ## The last match -/

/-- Every match of a pattern starts a line, ends in it and takes something in. -/
structure OnOneLine (p : Pattern) : Prop where
  fromLineStart : p.FromLineStart
  admits_feed : p.admits '\n' = false
  grows : ∀ s t, p.Reaches s t → s.position < t.position

theorem matchAt_congr {s s' : Spot} (h : s.forget = s'.forget) : p.matchAt s = p.matchAt s' := by
  rw [matchAt, matchAt, h]

/-- Places after a later place are places after the first one. -/
theorem Skipped.forget_skip {u v w : List Char} {s m : Spot} (h : Skipped w s m) :
    (m.skip u v).forget = (s.skip (w ++ u) v).forget := by
  obtain ⟨-, hbefore, hposition⟩ := h
  simp [Spot.skip, Spot.forget, hbefore, hposition, Nat.add_assoc]

/-- What is at the start of a line after a match on one line comes after the match. -/
theorem OnOneLine.exists_append (hp : p.OnOneLine) {s m : Spot} {u v w : List Char}
    (hw : Skipped (u ++ w) s m) (hclean : '\n' ∉ w) (hv : s.after = v ++ x) (hlt : u.length < v.length) {t : Spot}
    (ht : p.Reaches (s.skip v x).forget t) : ∃ y, v = u ++ w ++ y ∧ m.after = y ++ x := by
  have htext : u ++ w ++ m.after = v ++ x := hw.1.symm.trans hv
  rcases List.append_eq_append_iff.mp htext with ⟨y, hvy, hmy⟩ | ⟨y, hwy, -⟩
  · exact ⟨y, hvy, hmy⟩
  -- Otherwise the line starts within the match, after a line feed in it.
  · exfalso
    obtain ⟨z, rfl⟩ : ∃ z, v = u ++ z := by
      have hfront : u <+: v := by
        refine List.prefix_of_prefix_length_le ⟨w, rfl⟩ ?_ (Nat.le_of_lt hlt)
        exact ⟨y, hwy.symm⟩
      exact hfront.imp fun z hz => hz.symm
    rw [List.append_assoc, List.append_cancel_left_eq] at hwy
    have hz : z ≠ [] := by
      rintro rfl
      simp at hlt
    obtain ⟨z, c, rfl⟩ := (List.eq_nil_or_concat z).resolve_left hz
    have hc : c = '\n' := hp.fromLineStart _ t ht c (by simp [Spot.skip, Spot.forget])
    exact hclean (by rw [hwy, hc]; simp)

theorem OnOneLine.allAfter_cons (hp : p.OnOneLine) {s : Spot} {m : Match} (h : p.findAfter s = some m) :
    p.allAfter s = m :: p.allAfter m.stop := by
  obtain ⟨u, v, -, hm, -⟩ := findAfter_eq_some h
  obtain ⟨hplace, hreaches⟩ := reaches_of_matchAt hm
  refine Pattern.allAfter_cons h ?_
  rw [hplace]
  exact hp.grows _ _ hreaches

/-- **The last match is at the last place where there is one,** if every match starts a line and ends in it. -/
theorem OnOneLine.getLast_allAfter (hp : p.OnOneLine) {s : Spot} {m : Match} (h : (p.allAfter s).getLast? = some m) :
    ∃ u v, s.after = u ++ v ∧ p.matchAt (s.skip u v) = some m ∧
      ∀ u' v' t, s.after = u' ++ v' → p.Reaches (s.skip u' v').forget t → u'.length ≤ u.length := by
  induction hn : s.after.length using Nat.strongRecOn generalizing s with
  | ind n ih =>
    cases hfind : p.findAfter s with
    | none =>
      rw [allAfter_of_none hfind] at h
      cases h
    | some first =>
      obtain ⟨u, v, hs, hm, hmin⟩ := findAfter_eq_some hfind
      obtain ⟨hplace, hreaches⟩ := reaches_of_matchAt hm
      obtain ⟨w, hw, hadmits⟩ := exists_skipped_admits hreaches
      have hclean : '\n' ∉ w := by
        intro hmem
        have hadmit := hadmits _ hmem
        rw [hp.admits_feed] at hadmit
        cases hadmit
      have hstop : Skipped (u ++ w) s first.stop := (skipped_skip hs).trans hw
      rw [hp.allAfter_cons hfind] at h
      -- The places from the first match on are its own and those after it.
      have hlater {u' v' : List Char} {t : Spot} (hs' : s.after = u' ++ v') (ht : p.Reaches (s.skip u' v').forget t)
          (hlonger : u.length < u'.length) : ∃ y, u' = u ++ w ++ y ∧ first.stop.after = y ++ v' ∧
            p.Reaches (first.stop.skip y v').forget t := by
        obtain ⟨y, rfl, hy⟩ := hp.exists_append hstop hclean hs' hlonger ht
        refine ⟨y, rfl, hy, ?_⟩
        rwa [hstop.forget_skip]
      cases hnext : p.findAfter first.stop with
      | none =>
        rw [allAfter_of_none hnext, List.getLast?_singleton, Option.some.injEq] at h
        subst h
        refine ⟨u, v, hs, hm, ?_⟩
        intro u' v' t hs' ht
        refine Nat.le_of_not_lt fun hlonger => ?_
        obtain ⟨y, -, hy, ht⟩ := hlater hs' ht hlonger
        have hsome := (findFrom_isSome hy).mpr ⟨y, v', rfl, t, ht⟩
        rw [← hy] at hsome
        rw [show p.findFrom first.stop.after first.stop = none from hnext] at hsome
        cases hsome
      | some second =>
        rw [hp.allAfter_cons hnext, List.getLast?_cons_cons, ← hp.allAfter_cons hnext] at h
        have hshorter : first.stop.after.length < n := by
          have hgrows := hp.grows _ _ hreaches
          have hposition := hw.2.2
          rw [← hn, hstop.1, List.length_append, List.length_append]
          omega
        obtain ⟨u₁, v₁, hs₁, hm₁, hmax⟩ := ih _ hshorter h rfl
        refine ⟨u ++ w ++ u₁, v₁, ?_, ?_, ?_⟩
        · simp [hstop.1, hs₁]
        · rwa [matchAt_congr hstop.forget_skip] at hm₁
        · intro u' v' t hs' ht
          refine Nat.le_of_not_lt fun hlonger => ?_
          rw [List.length_append, List.length_append] at hlonger
          obtain ⟨y, rfl, hy, ht⟩ := hlater hs' ht (by omega)
          have hle := hmax y v' t hy ht
          rw [List.length_append, List.length_append] at hlonger
          omega

end ScenarioAudit.Pattern
