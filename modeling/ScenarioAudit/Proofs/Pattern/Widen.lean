import ScenarioAudit.Proofs.Pattern.Capture

/-! # Matches in a larger text

A pattern looks beyond what it takes in only where it tests the place, for the start or the end of a line and the like.
If these tests do not fail with more text around (`Stable`), what matches in a text matches in the larger one too
(`reaches_widen`), and captures the same (`captured_widen`). If they tell the same there and nothing that is taken in
goes on in the text around (`Closed`), the larger text has no other matches, and the one that is found at a place is the
same (`matchAt_widen`).
-/

namespace ScenarioAudit

open ScenarioAudit.Text

/-- The same place with more text before and after. -/
def Spot.widen (u w : List Char) (s : Spot) : Spot where
  before := s.before ++ u.reverse
  after := s.after ++ w
  position := u.length + s.position
  captures := s.captures.map fun x => (x.1, { x.2 with start := x.2.start ++ w })

namespace Pattern

variable {u w : List Char}

theorem widen_skip (s : Spot) (x rest : List Char) :
    (s.skip x rest).widen u w = (s.widen u w).skip x (rest ++ w) := by
  simp [Spot.widen, Spot.skip, Nat.add_assoc]

theorem widen_between (x y : List Char) : (Spot.between x y).widen u w = .between (u ++ x) (y ++ w) := by
  simp [Spot.widen, Spot.between]

/-- The tests of a pattern that hold at a place hold there with more text before and after. -/
def Stable (u w : List Char) : Pattern → Prop
  | nothing | one _ | many _ _ => True
  | seq p q | alt p q => p.Stable u w ∧ q.Stable u w
  | star p | capture _ p => p.Stable u w
  | same _ => False
  | look test =>
    ∀ before after, test before.head? after = true → test (before ++ u.reverse).head? (after ++ w) = true

@[simp] theorem stable_append {p q : Pattern} : (p ++ q).Stable u w ↔ p.Stable u w ∧ q.Stable u w :=
  Iff.rfl

@[simp] theorem stable_caseless (s : String) : (caseless s).Stable u w := by
  rw [caseless]
  induction s.toList with
  | nil => trivial
  | cons c l ih => exact ⟨trivial, ih⟩

@[simp] theorem stable_word (s : String) : (word s).Stable u w := by
  rw [word]
  induction s.toList with
  | nil => trivial
  | cons c l ih => exact ⟨trivial, ih⟩

theorem stable_lineStart (hu : ∀ c ∈ u.getLast?, c = '\n') : lineStart.Stable u w := by
  intro before after h
  cases before with
  | nil =>
    rw [List.nil_append, List.head?_reverse]
    cases hlast : u.getLast? with
    | none => rfl
    | some c =>
      rw [hu c hlast]
      rfl
  | cons c before => exact h

theorem stable_lineEnd (hw : ∀ c ∈ w.head?, c = '\n') : lineEnd.Stable u w := by
  intro before after h
  cases after with
  | nil =>
    cases w with
    | nil => rfl
    | cons c w =>
      obtain rfl : c = '\n' := hw c rfl
      rfl
  | cons c after => exact h

theorem ReachesIn.mono {step : Spot → Spot → Prop} {n n' : Nat} (hn : n ≤ n') {s t : Spot}
    (h : ReachesIn step n s t) : ReachesIn step n' s t := by
  induction n generalizing n' s with
  | zero =>
    obtain rfl : t = s := h
    exact reachesIn_refl n' t
  | succ n ih =>
    obtain ⟨n', rfl⟩ : ∃ k, n' = k + 1 := ⟨n' - 1, by omega⟩
    rcases h with rfl | ⟨m, hm, h⟩
    · exact Or.inl rfl
    · exact Or.inr ⟨m, hm, ih (by omega) h⟩

theorem ReachesIn.map {step : Spot → Spot → Prop} {f : Spot → Spot} (hf : ∀ s t, step s t → step (f s) (f t)) {n : Nat}
    {s t : Spot} (h : ReachesIn step n s t) : ReachesIn step n (f s) (f t) := by
  induction n generalizing s with
  | zero => exact congrArg f h
  | succ n ih =>
    rcases h with rfl | ⟨m, hm, h⟩
    · exact Or.inl rfl
    · exact Or.inr ⟨f m, hf s m hm, ih h⟩

/-- **What matches in a text matches in a larger one.** -/
theorem reaches_widen {p : Pattern} (hp : p.Stable u w) {s t : Spot} (h : p.Reaches s t) :
    p.Reaches (s.widen u w) (t.widen u w) := by
  induction p generalizing s t with
  | nothing => exact congrArg _ h
  | one p =>
    obtain ⟨c, rest, hs, hc, rfl⟩ := h
    exact ⟨c, rest ++ w, congrArg (· ++ w) hs, hc, rfl⟩
  | many greedy p =>
    obtain ⟨v, rest, hs, hv, rfl⟩ := h
    refine ⟨v, rest ++ w, ?_, hv, widen_skip s v rest⟩
    rw [← List.append_assoc]
    exact congrArg (· ++ w) hs
  | seq p q ihp ihq =>
    obtain ⟨m, hm, ht⟩ := h
    exact ⟨m.widen u w, ihp hp.1 hm, ihq hp.2 ht⟩
  | alt p q ihp ihq => exact h.imp (ihp hp.1) (ihq hp.2)
  | star p ih =>
    refine ReachesIn.mono ?_ (ReachesIn.map (fun s t hstep => ih hp hstep) h)
    rw [show (s.widen u w).after = s.after ++ w from rfl, List.length_append]
    exact Nat.le_add_right _ _
  | capture n p ih =>
    obtain ⟨m, hm, rfl⟩ := h
    refine ⟨m.widen u w, ih hp hm, ?_⟩
    simp [Spot.widen, Nat.add_sub_add_left]
  | same n => exact hp.elim
  | look test =>
    obtain ⟨htest, rfl⟩ := h
    exact ⟨hp _ _ htest, rfl⟩

/-- **The larger match captures the same.** -/
theorem captured_widen {p : Pattern} {s t : Spot} (h : p.Reaches s t) (hs : s.captures = []) (n : Nat) :
    (t.widen u w).captured n = t.captured n := by
  obtain ⟨new, hnew, hcaught⟩ := captures_of_reaches h
  rw [hs, List.append_nil] at hnew
  simp only [Spot.captured, Spot.widen, hnew, List.find?_map, Function.comp_def]
  cases hfind : new.find? fun x => decide (x.1 = n) with
  | none => rfl
  | some x =>
    have hlength := (hcaught x (List.mem_of_find?_eq_some hfind)).takes.1
    exact List.take_append_of_le_length hlength

/-! ## The same match -/

/-- More text before and after gives a pattern no other way to match: what it takes in does not go on there, and its
tests tell the same. -/
def Closed (u w : List Char) : Pattern → Prop
  | nothing => True
  | one q | many _ q => w.head?.any q = false
  | seq p q | alt p q => p.Closed u w ∧ q.Closed u w
  | capture _ p => p.Closed u w
  | star _ | same _ => False
  | look test => ∀ before after, test (before ++ u.reverse).head? (after ++ w) = test before.head? after

@[simp] theorem closed_append {p q : Pattern} : (p ++ q).Closed u w ↔ p.Closed u w ∧ q.Closed u w :=
  Iff.rfl

theorem closed_word {s : String} (hs : ∀ c ∈ s.toList, c ∉ w.head?) : (word s).Closed u w := by
  rw [word]
  generalize s.toList = l at hs ⊢
  induction l with
  | nil => trivial
  | cons c l ih =>
    rw [List.forall_mem_cons] at hs
    refine ⟨?_, ih hs.2⟩
    cases hw : w.head? with
    | none => simp [char, Closed, hw]
    | some d =>
      have hne : d ≠ c := by
        rintro rfl
        exact hs.1 hw
      simp [char, Closed, hw, hne]

theorem closed_lineStart (hu : ∀ c ∈ u.getLast?, c = '\n') : lineStart.Closed u w := by
  intro before after
  cases before with
  | nil =>
    rw [List.nil_append, List.head?_reverse]
    cases hlast : u.getLast? with
    | none => rfl
    | some c =>
      rw [hu c hlast]
      rfl
  | cons c before => rfl

theorem closed_edge (hu : ∀ c ∈ u.getLast?, c = '\n') (hw : ∀ c ∈ w.head?, c = '\n') : edge.Closed u w := by
  have hfeed : isWordChar '\n' = false := by decide
  intro before after
  have hbefore : (before ++ u.reverse).head?.any isWordChar = before.head?.any isWordChar := by
    cases before with
    | nil =>
      rw [List.nil_append, List.head?_reverse]
      cases hlast : u.getLast? with
      | none => rfl
      | some c =>
        rw [hu c hlast]
        exact hfeed
    | cons c before => rfl
  have hafter : (after ++ w).head?.any isWordChar = after.head?.any isWordChar := by
    cases after with
    | nil =>
      rw [List.nil_append]
      cases hhead : w.head? with
      | none => rfl
      | some c =>
        rw [hw c hhead]
        exact hfeed
    | cons c after => rfl
  show ((before ++ u.reverse).head?.any isWordChar != (after ++ w).head?.any isWordChar) = _
  rw [hbefore, hafter]

/-- What the edge of a word is, a larger text of lines does not change. -/
theorem stable_edge (hu : ∀ c ∈ u.getLast?, c = '\n') (hw : ∀ c ∈ w.head?, c = '\n') : edge.Stable u w := by
  intro before after h
  rwa [closed_edge hu hw before after]

theorem widen_next (s : Spot) (c : Char) (rest : List Char) :
    (s.widen u w).next c (rest ++ w) = (s.next c rest).widen u w := by
  simp [Spot.widen, Spot.next, Nat.add_assoc]

section Run

variable {α β : Type} {f : α → β} {k : Spot → Option α} {k' : Spot → Option β}

theorem runMany_widen {q : Char → Bool} (hq : w.head?.any q = false) (hk : ∀ t, k' (t.widen u w) = (k t).map f)
    (l : List Char) (s : Spot) :
    runMany q k' (l ++ w) (s.widen u w) = (runMany q k l s).map f := by
  induction l generalizing s with
  | nil =>
    rw [List.nil_append, runMany, ← hk]
    cases w with
    | nil => rfl
    | cons c w =>
      have hc : ¬ q c = true := by simpa using hq
      rw [runMany, if_neg hc]
  | cons c l ih =>
    rw [List.cons_append, runMany, runMany, widen_next, ih]
    split
    · cases runMany q k l (s.next c l) with
      | none => exact hk s
      | some a => rfl
    · exact hk s

theorem runLazy_widen {q : Char → Bool} (hq : w.head?.any q = false) (hk : ∀ t, k' (t.widen u w) = (k t).map f)
    (l : List Char) (s : Spot) :
    runLazy q k' (l ++ w) (s.widen u w) = (runLazy q k l s).map f := by
  induction l generalizing s with
  | nil =>
    rw [List.nil_append, runLazy, ← hk]
    cases w with
    | nil => rfl
    | cons c w =>
      have hc : ¬ q c = true := by simpa using hq
      rw [runLazy, if_neg hc]
      cases k' (s.widen u (c :: w)) with
      | none => rfl
      | some b => rfl
  | cons c l ih =>
    rw [List.cons_append, runLazy, runLazy, widen_next, ih, hk]
    cases k s with
    | none =>
      rw [Option.map_none]
      dsimp only
      split <;> rfl
    | some a => rfl

/-- **A closed pattern runs in a larger text as it does in the smaller one.** -/
theorem run_widen {p : Pattern} (hp : p.Closed u w) (hk : ∀ t, k' (t.widen u w) = (k t).map f) (s : Spot) :
    p.run (s.widen u w) k' = (p.run s k).map f := by
  induction p generalizing s k k' with
  | nothing => exact hk s
  | one q =>
    have hafter : (s.widen u w).after = s.after ++ w := rfl
    rw [run, run, hafter]
    cases s.after with
    | nil =>
      cases w with
      | nil => rfl
      | cons c w =>
        have hc : ¬ q c = true := by simpa [Closed] using hp
        rw [List.nil_append]
        exact if_neg hc
    | cons c rest =>
      rw [List.cons_append]
      dsimp only
      rw [widen_next, hk]
      split <;> rfl
  | many greedy q =>
    rw [run, run]
    cases greedy with
    | true => exact runMany_widen hp hk s.after s
    | false => exact runLazy_widen hp hk s.after s
  | seq p q ihp ihq =>
    rw [run, run]
    exact ihp hp.1 (fun t => ihq hp.2 hk t) s
  | alt p q ihp ihq =>
    rw [run, run, ihp hp.1 hk s, ihq hp.2 hk s]
    cases p.run s k with
    | none => rfl
    | some a => rfl
  | star p => exact hp.elim
  | capture n p ih =>
    rw [run, run]
    refine ih hp (fun t => ?_) s
    rw [← hk]
    simp [Spot.widen, Nat.add_sub_add_left]
  | same n => exact hp.elim
  | look test =>
    rw [run, run]
    show (if test (s.before ++ u.reverse).head? (s.after ++ w) then k' (s.widen u w) else none) = _
    rw [hp s.before s.after, hk]
    split <;> rfl

end Run

/-- **The match of a closed pattern at a place is the same in a larger text.** -/
theorem matchAt_widen {p : Pattern} (hp : p.Closed u w) (s : Spot) :
    p.matchAt (s.widen u w) = (p.matchAt s).map fun m => ⟨m.start.widen u w, m.stop.widen u w⟩ := by
  have hforget : (s.widen u w).forget = s.forget.widen u w := rfl
  have hrun : p.run (s.forget.widen u w) some = (p.run s.forget some).map (Spot.widen u w) :=
    run_widen hp (fun t => rfl) s.forget
  rw [matchAt, matchAt, hforget, hrun]
  cases p.run s.forget some with
  | none => rfl
  | some t => rfl

end Pattern

end ScenarioAudit
