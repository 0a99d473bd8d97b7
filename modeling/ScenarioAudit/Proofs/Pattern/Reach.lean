import ScenarioAudit.Pattern.Build

/-! # Where a pattern leads

A pattern leads from a place to others (`Reaches`), one for each way to match it there. A run tries these ways in
order, so it succeeds exactly if one of them is a place that everything after the pattern can go on from
(`run_isSome`), and what it gives was found from such a place (`exists_reaches`).
-/

namespace ScenarioAudit

/-- The place after a piece of the text. -/
def Spot.skip (s : Spot) (u rest : List Char) : Spot :=
  { s with before := u.reverse ++ s.before, after := rest, position := s.position + u.length }

/-- The place in a text between two pieces of it, with nothing captured. -/
def Spot.between (u v : List Char) : Spot :=
  ⟨u.reverse, v, u.length, []⟩

namespace Spot

theorem skip_nil {s : Spot} {l : List Char} (h : s.after = l) : s.skip [] l = s := by
  rw [← h]
  rfl

theorem skip_cons (s : Spot) (c : Char) (u rest : List Char) :
    (s.next c (u ++ rest)).skip u rest = s.skip (c :: u) rest := by
  simp only [skip, next, List.reverse_cons, List.append_assoc, List.singleton_append, List.length_cons]
  congr 1
  omega

end Spot

namespace Pattern

/-- Steps one after the other, at most a number of them. -/
def ReachesIn (step : Spot → Spot → Prop) : Nat → Spot → Spot → Prop
  | 0, s, t => t = s
  | n + 1, s, t => t = s ∨ ∃ m, step s m ∧ ReachesIn step n m t

theorem reachesIn_refl {step : Spot → Spot → Prop} (n : Nat) (s : Spot) : ReachesIn step n s s := by
  cases n with
  | zero => rfl
  | succ n => exact Or.inl rfl

/-- **What every step keeps, any number of steps keeps.** -/
theorem ReachesIn.invariant {step : Spot → Spot → Prop} {I : Spot → Prop} (hstep : ∀ s m, I s → step s m → I m)
    {n : Nat} {s t : Spot} (h : ReachesIn step n s t) (hs : I s) : I t := by
  induction n generalizing s with
  | zero => exact (show t = s from h) ▸ hs
  | succ n ih =>
    rcases h with rfl | ⟨m, hm, h⟩
    · exact hs
    · exact ih h (hstep s m hs hm)

theorem ReachesIn.eq_of_no_step {step : Spot → Spot → Prop} {n : Nat} {s t : Spot} (h : ReachesIn step n s t)
    (hs : ∀ m, ¬ step s m) : t = s := by
  cases n with
  | zero => exact h
  | succ n => exact h.resolve_right fun ⟨m, hm, _⟩ => hs m hm

def Reaches : Pattern → Spot → Spot → Prop
  | nothing, s, t => t = s
  | one p, s, t => ∃ c rest, s.after = c :: rest ∧ p c = true ∧ t = s.next c rest
  | many _ p, s, t => ∃ u rest, s.after = u ++ rest ∧ (∀ c ∈ u, p c = true) ∧ t = s.skip u rest
  | seq a b, s, t => ∃ m, a.Reaches s m ∧ b.Reaches m t
  | alt a b, s, t => a.Reaches s t ∨ b.Reaches s t
  | star a, s, t => ReachesIn a.Reaches s.after.length s t
  | capture n a, s, t =>
    ∃ m, a.Reaches s m ∧ t = { m with captures := (n, ⟨s.after, m.position - s.position⟩) :: m.captures }
  | same n, s, t => runText (s.captured n) s = some t
  | look test, s, t => test s.before.head? s.after = true ∧ t = s

/-- A repetition stops, or takes one more character first. -/
theorem reaches_many {greedy : Bool} {p : Char → Bool} {s t : Spot} :
    (many greedy p).Reaches s t ↔
      t = s ∨ ∃ c rest, s.after = c :: rest ∧ p c = true ∧ (many greedy p).Reaches (s.next c rest) t := by
  constructor
  · rintro ⟨u, rest, hu, hall, rfl⟩
    cases u with
    | nil =>
      rw [List.nil_append] at hu
      rw [← hu]
      exact Or.inl rfl
    | cons c u =>
      rw [List.forall_mem_cons] at hall
      exact Or.inr ⟨c, u ++ rest, hu, hall.1, u, rest, rfl, hall.2, (Spot.skip_cons s c u rest).symm⟩
  · rintro (rfl | ⟨c, _, hc, hp, u, rest, rfl, hall, rfl⟩)
    · exact ⟨[], t.after, rfl, nofun, rfl⟩
    · exact ⟨c :: u, rest, hc, List.forall_mem_cons.mpr ⟨hp, hall⟩, Spot.skip_cons s c u rest⟩

/-! ## Runs -/

section Run

variable {α : Type} {k : Spot → Option α}

theorem exists_reaches_many {greedy : Bool} {p : Char → Bool} {s : Spot} {a : α}
    (h : (many greedy p).run s k = some a) : ∃ t, (many greedy p).Reaches s t ∧ k t = some a := by
  have hstop {greedy : Bool} {s : Spot} (h : k s = some a) : ∃ t, (many greedy p).Reaches s t ∧ k t = some a :=
    ⟨s, reaches_many.mpr (Or.inl rfl), h⟩
  have hmore {greedy : Bool} {s : Spot} {c : Char} {l : List Char} (hl : s.after = c :: l) (hc : p c = true)
      (h : ∃ t, (many greedy p).Reaches (s.next c l) t ∧ k t = some a) :
      ∃ t, (many greedy p).Reaches s t ∧ k t = some a := by
    obtain ⟨t, ht, hk⟩ := h
    exact ⟨t, reaches_many.mpr (Or.inr ⟨c, l, hl, hc, ht⟩), hk⟩
  have hrun : ∀ (l : List Char) (s : Spot), s.after = l →
      (runMany p k l s = some a → ∃ t, (many true p).Reaches s t ∧ k t = some a) ∧
      (runLazy p k l s = some a → ∃ t, (many false p).Reaches s t ∧ k t = some a) := by
    intro l
    induction l with
    | nil => exact fun s hl => ⟨hstop, hstop⟩
    | cons c l ih =>
      intro s hl
      obtain ⟨hgreedy, hlazy⟩ := ih (s.next c l) rfl
      constructor
      · intro h
        rw [runMany] at h
        by_cases hc : p c = true
        · rw [if_pos hc] at h
          cases hnext : runMany p k l (s.next c l) with
          | none =>
            rw [hnext] at h
            exact hstop h
          | some b =>
            rw [hnext] at h
            exact hmore hl hc (hgreedy (hnext.trans h))
        · rw [if_neg hc] at h
          exact hstop h
      · intro h
        rw [runLazy] at h
        cases hk : k s with
        | some b =>
          rw [hk] at h
          exact hstop (hk.trans h)
        | none =>
          rw [hk] at h
          by_cases hc : p c = true
          · exact hmore hl hc (hlazy ((if_pos hc).symm.trans h))
          · exact absurd ((if_neg hc).symm.trans h) nofun
  cases greedy with
  | true => exact (hrun s.after s rfl).1 h
  | false => exact (hrun s.after s rfl).2 h

theorem isSome_many {greedy : Bool} {p : Char → Bool} {s t : Spot} (h : (many greedy p).Reaches s t)
    (hk : (k t).isSome) : ((many greedy p).run s k).isSome := by
  have hrun : ∀ (l : List Char) (s : Spot), s.after = l →
      ((many true p).Reaches s t → (runMany p k l s).isSome) ∧
      ((many false p).Reaches s t → (runLazy p k l s).isSome) := by
    intro l
    induction l with
    | nil =>
      intro s hl
      have hstop {greedy : Bool} (h : (many greedy p).Reaches s t) : (k s).isSome := by
        rcases reaches_many.mp h with rfl | ⟨c, rest, hc, -⟩
        · exact hk
        · rw [hl] at hc
          cases hc
      exact ⟨hstop, hstop⟩
    | cons c l ih =>
      intro s hl
      obtain ⟨hgreedy, hlazy⟩ := ih (s.next c l) rfl
      -- Either nothing more is taken, or the next character is one of the class.
      have hcases {greedy : Bool} (h : (many greedy p).Reaches s t) :
          (k s).isSome ∨ p c = true ∧ (many greedy p).Reaches (s.next c l) t := by
        rcases reaches_many.mp h with rfl | ⟨d, rest, hd, hp, h⟩
        · exact Or.inl hk
        · rw [hl, List.cons.injEq] at hd
          obtain ⟨rfl, rfl⟩ := hd
          exact Or.inr ⟨hp, h⟩
      constructor
      · intro h
        rw [runMany]
        rcases hcases h with hs | ⟨hc, h⟩
        · by_cases hc : p c = true
          · rw [if_pos hc]
            cases runMany p k l (s.next c l) with
            | none => exact hs
            | some b => rfl
          · rwa [if_neg hc]
        · obtain ⟨b, hb⟩ := Option.isSome_iff_exists.mp (hgreedy h)
          rw [if_pos hc, hb]
          rfl
      · intro h
        rw [runLazy]
        cases hs : k s with
        | some b => rfl
        | none =>
          rcases hcases h with hstop | ⟨hc, h⟩
          · rw [hs] at hstop
            cases hstop
          · exact (congrArg Option.isSome (if_pos hc)).trans (hlazy h)
  cases greedy with
  | true => exact (hrun s.after s rfl).1 h
  | false => exact (hrun s.after s rfl).2 h

theorem exists_reachesIn {step : Spot → (Spot → Option α) → Option α} {leads : Spot → Spot → Prop} {a : α}
    (hstep : ∀ (s : Spot) (k : Spot → Option α), step s k = some a → ∃ t, leads s t ∧ k t = some a) {fuel : Nat}
    {s : Spot} (h : runStar step k fuel s = some a) : ∃ t, ReachesIn leads fuel s t ∧ k t = some a := by
  induction fuel generalizing s with
  | zero => exact ⟨s, rfl, h⟩
  | succ fuel ih =>
    rw [runStar] at h
    cases hrun : step s (runStar step k fuel) with
    | none =>
      rw [hrun] at h
      exact ⟨s, Or.inl rfl, h⟩
    | some b =>
      rw [hrun] at h
      obtain ⟨m, hm, hrest⟩ := hstep _ _ (hrun.trans h)
      obtain ⟨t, ht, hk⟩ := ih hrest
      exact ⟨t, Or.inr ⟨m, hm, ht⟩, hk⟩

theorem isSome_star {step : Spot → (Spot → Option α) → Option α} {leads : Spot → Spot → Prop}
    (hstep : ∀ (s t : Spot) (k : Spot → Option α), leads s t → (k t).isSome → (step s k).isSome) {fuel : Nat}
    {s t : Spot} (h : ReachesIn leads fuel s t) (hk : (k t).isSome) : (runStar step k fuel s).isSome := by
  induction fuel generalizing s with
  | zero =>
    cases h
    exact hk
  | succ fuel ih =>
    rw [runStar]
    rcases h with rfl | ⟨m, hm, h⟩
    · cases step t (runStar step k fuel) with
      | none => exact hk
      | some b => rfl
    · obtain ⟨b, hb⟩ := Option.isSome_iff_exists.mp (hstep _ _ _ hm (ih h))
      rw [hb]
      rfl

/-- **What a run gives was found from a place that the pattern leads to.** -/
theorem exists_reaches {p : Pattern} {s : Spot} {a : α} (h : p.run s k = some a) :
    ∃ t, p.Reaches s t ∧ k t = some a := by
  induction p generalizing s k with
  | nothing => exact ⟨s, rfl, h⟩
  | one p =>
    rw [run] at h
    cases hs : s.after with
    | nil =>
      rw [hs] at h
      cases h
    | cons c rest =>
      rw [hs] at h
      by_cases hc : p c = true
      · exact ⟨_, ⟨c, rest, hs, hc, rfl⟩, (if_pos hc).symm.trans h⟩
      · exact absurd ((if_neg hc).symm.trans h) nofun
  | many greedy p => exact exists_reaches_many h
  | seq p q ihp ihq =>
    obtain ⟨m, hm, hq⟩ := ihp h
    obtain ⟨t, ht, hk⟩ := ihq hq
    exact ⟨t, ⟨m, hm, ht⟩, hk⟩
  | alt p q ihp ihq =>
    rw [run] at h
    cases hrun : p.run s k with
    | some b =>
      rw [hrun] at h
      obtain ⟨t, ht, hk⟩ := ihp (hrun.trans h)
      exact ⟨t, Or.inl ht, hk⟩
    | none =>
      rw [hrun] at h
      obtain ⟨t, ht, hk⟩ := ihq h
      exact ⟨t, Or.inr ht, hk⟩
  | star p ih =>
    rw [run] at h
    refine exists_reachesIn ?_ h
    exact fun _ _ h => ih h
  | capture n p ih =>
    obtain ⟨m, hm, hk⟩ := ih h
    exact ⟨_, ⟨m, hm, rfl⟩, hk⟩
  | same n =>
    rw [run] at h
    cases hrun : runText (s.captured n) s with
    | none =>
      rw [hrun] at h
      cases h
    | some t =>
      rw [hrun] at h
      exact ⟨t, hrun, h⟩
  | look test =>
    rw [run] at h
    by_cases htest : test s.before.head? s.after = true
    · exact ⟨s, ⟨htest, rfl⟩, (if_pos htest).symm.trans h⟩
    · exact absurd ((if_neg htest).symm.trans h) nofun

/-- **A run succeeds if the pattern leads to a place from which all else does.** -/
theorem isSome_run {p : Pattern} {s t : Spot} (h : p.Reaches s t) (hk : (k t).isSome) : (p.run s k).isSome := by
  induction p generalizing s t k with
  | nothing =>
    cases h
    exact hk
  | one p =>
    obtain ⟨c, rest, hs, hc, rfl⟩ := h
    rw [run, hs]
    exact (congrArg Option.isSome (if_pos hc)).trans hk
  | many greedy p => exact isSome_many h hk
  | seq p q ihp ihq =>
    obtain ⟨m, hm, ht⟩ := h
    exact ihp hm (ihq ht hk)
  | alt p q ihp ihq =>
    rw [run]
    cases hrun : p.run s k with
    | some b => rfl
    | none =>
      rcases h with h | h
      · have hsome := ihp h hk
        rw [hrun] at hsome
        cases hsome
      · exact ihq h hk
  | star p ih =>
    rw [run]
    refine isSome_star ?_ h hk
    exact fun _ _ _ h hk => ih h hk
  | capture n p ih =>
    obtain ⟨m, hm, rfl⟩ := h
    exact ih hm hk
  | same n =>
    rw [run, show runText (s.captured n) s = some t from h]
    exact hk
  | look test =>
    obtain ⟨htest, rfl⟩ := h
    rw [run]
    exact (congrArg Option.isSome (if_pos htest)).trans hk

theorem run_isSome {p : Pattern} {s : Spot} : (p.run s k).isSome ↔ ∃ t, p.Reaches s t ∧ (k t).isSome := by
  constructor
  · intro h
    obtain ⟨a, ha⟩ := Option.isSome_iff_exists.mp h
    obtain ⟨t, ht, hk⟩ := exists_reaches ha
    exact ⟨t, ht, Option.isSome_iff_exists.mpr ⟨a, hk⟩⟩
  · rintro ⟨t, ht, hk⟩
    exact isSome_run ht hk

end Run

end Pattern

end ScenarioAudit
