import ScenarioAudit.Proofs.Pattern.Reach

/-! # Finding a pattern

A pattern occurs in a text if it leads on from one of the places between two pieces of it (`occurs_iff`), and what it
leads to is a later place of the same text (`Reaches.exists_skipped`). The usual pieces of patterns lead where one
would think (`reaches_word`, `reaches_firstOf` and the others).
-/

namespace ScenarioAudit.Pattern

open ScenarioAudit.Text

/-! ## Pieces of a text -/

theorem exists_append_of_not_mem {z r x y : List Char} {d : Char} (h : z ++ r = x ++ d :: y) (hd : d ∉ z) :
    ∃ x', x = z ++ x' ∧ r = x' ++ d :: y := by
  rcases List.append_eq_append_iff.mp h with ⟨x', hx, hr⟩ | ⟨z', hz, hy⟩
  · exact ⟨x', hx, hr⟩
  · cases z' with
    | nil => exact ⟨[], by simpa using hz.symm, by simpa using hy.symm⟩
    | cons c z' =>
      obtain ⟨rfl, -⟩ := List.cons.inj hy
      exact absurd (by simp [hz]) hd

theorem bne_of_not_mem {b : List Char} {d : Char} (hb : d ∉ b) : ∀ c ∈ b, (c != d) = true := by
  intro c hc
  rw [bne_iff_ne]
  rintro rfl
  exact hb hc

theorem notNewline_of_not_mem {b : List Char} (hb : '\n' ∉ b) : ∀ c ∈ b, notNewline c = true :=
  bne_of_not_mem hb

theorem takeWhile_until {b w : List Char} {q : Char → Bool} (hb : ∀ c ∈ b, q c = true) (hw : w.head?.any q = false) :
    (b ++ w).takeWhile q = b := by
  have hstop : w.takeWhile q = [] := by
    cases w with
    | nil => rfl
    | cons c w => exact List.takeWhile_cons_of_neg (Bool.eq_false_iff.mp hw)
  rw [List.takeWhile_append_of_pos hb, hstop, List.append_nil]

theorem takeWhile_until_cons {b w : List Char} {d : Char} {q : Char → Bool} (hb : ∀ c ∈ b, q c = true)
    (hd : q d = false) : (b ++ d :: w).takeWhile q = b :=
  takeWhile_until hb hd

/-- A text is cut in one way only where a piece of a class ends. -/
theorem until_cons_inj {b b' x x' : List Char} {c c' : Char} {q : Char → Bool} (hb : ∀ d ∈ b, q d = true)
    (hb' : ∀ d ∈ b', q d = true) (hc : q c = false) (hc' : q c' = false) (h : b ++ c :: x = b' ++ c' :: x') :
    b = b' ∧ c = c' ∧ x = x' := by
  have hsame : b = b' := by
    calc b = (b ++ c :: x).takeWhile q := (takeWhile_until_cons hb hc).symm
      _ = (b' ++ c' :: x').takeWhile q := by rw [h]
      _ = b' := takeWhile_until_cons hb' hc'
  subst hsame
  rw [List.append_cancel_left_eq, List.cons.injEq] at h
  exact ⟨rfl, h⟩

theorem takeWhile_enclosed {lead b w : List Char} {d : Char} {q : Char → Bool} (hlead : d ∉ lead)
    (hb : ∀ c ∈ b, q c = true) (hw : w.head?.any q = false) :
    (((lead ++ d :: (b ++ w)).dropWhile (· != d)).drop 1).takeWhile q = b := by
  rw [List.dropWhile_append_of_pos (bne_of_not_mem hlead), List.dropWhile_cons_of_neg (by simp), List.drop_one,
    List.tail_cons, takeWhile_until hb hw]

/-! ## Later places -/

/-- A place of the same text after a piece of it. -/
def Skipped (u : List Char) (s t : Spot) : Prop :=
  s.after = u ++ t.after ∧ t.before = u.reverse ++ s.before ∧ t.position = s.position + u.length

theorem Skipped.refl (s : Spot) : Skipped [] s s :=
  ⟨rfl, rfl, rfl⟩

theorem Skipped.trans {u v : List Char} {s m t : Spot} (h : Skipped u s m) (h' : Skipped v m t) :
    Skipped (u ++ v) s t := by
  obtain ⟨hafter, hbefore, hposition⟩ := h
  obtain ⟨hafter', hbefore', hposition'⟩ := h'
  refine ⟨?_, ?_, ?_⟩
  · rw [hafter, hafter', List.append_assoc]
  · rw [hbefore', hbefore, List.reverse_append, List.append_assoc]
  · rw [hposition', hposition, List.length_append]
    omega

theorem skipped_skip {s : Spot} {u rest : List Char} (h : s.after = u ++ rest) : Skipped u s (s.skip u rest) :=
  ⟨h, rfl, rfl⟩

theorem skipped_next {s : Spot} {c : Char} {rest : List Char} (h : s.after = c :: rest) :
    Skipped [c] s (s.next c rest) :=
  ⟨h, rfl, rfl⟩

theorem runText_eq_some {piece : List Char} {s t : Spot} :
    runText piece s = some t ↔ ∃ rest, s.after = piece ++ rest ∧ t = s.skip piece rest := by
  induction piece generalizing s with
  | nil =>
    rw [runText, Option.some.injEq]
    constructor
    · rintro rfl
      exact ⟨s.after, rfl, rfl⟩
    · rintro ⟨rest, rfl, rfl⟩
      rfl
  | cons c piece ih =>
    rw [runText]
    cases hs : s.after with
    | nil => simp
    | cons d after =>
      dsimp only
      by_cases hcd : c = d
      · subst hcd
        rw [if_pos rfl, ih]
        constructor
        · rintro ⟨rest, hrest, rfl⟩
          obtain rfl : after = piece ++ rest := hrest
          exact ⟨rest, rfl, Spot.skip_cons s c piece rest⟩
        · rintro ⟨rest, hrest, rfl⟩
          obtain rfl := (List.cons.inj hrest).2
          exact ⟨rest, rfl, (Spot.skip_cons s c piece rest).symm⟩
      · rw [if_neg hcd]
        constructor
        · nofun
        · rintro ⟨rest, hrest, -⟩
          exact absurd (List.cons.inj hrest).1.symm hcd

/-- What a pattern leads to is a later place of the same text. -/
theorem Reaches.exists_skipped {p : Pattern} {s t : Spot} (h : p.Reaches s t) : ∃ u, Skipped u s t := by
  induction p generalizing s t with
  | nothing => exact ⟨[], h ▸ Skipped.refl s⟩
  | one p =>
    obtain ⟨c, rest, hs, -, rfl⟩ := h
    exact ⟨[c], skipped_next hs⟩
  | many greedy p =>
    obtain ⟨u, rest, hs, -, rfl⟩ := h
    exact ⟨u, skipped_skip hs⟩
  | seq p q ihp ihq =>
    obtain ⟨m, hm, ht⟩ := h
    obtain ⟨u, hu⟩ := ihp hm
    obtain ⟨v, hv⟩ := ihq ht
    exact ⟨u ++ v, hu.trans hv⟩
  | alt p q ihp ihq =>
    rcases h with h | h
    · exact ihp h
    · exact ihq h
  | star p ih =>
    refine ReachesIn.invariant (I := fun m => ∃ u, Skipped u s m) ?_ h ⟨[], Skipped.refl s⟩
    rintro m m' ⟨u, hu⟩ hstep
    obtain ⟨v, hv⟩ := ih hstep
    exact ⟨u ++ v, hu.trans hv⟩
  | capture n p ih =>
    obtain ⟨m, hm, rfl⟩ := h
    obtain ⟨u, hu⟩ := ih hm
    exact ⟨u, hu⟩
  | same n =>
    obtain ⟨rest, hs, rfl⟩ := runText_eq_some.mp h
    exact ⟨_, skipped_skip hs⟩
  | look test =>
    obtain ⟨-, rfl⟩ := h
    exact ⟨[], Skipped.refl t⟩

/-! ## Matches -/

theorem matchAt_isSome {p : Pattern} {s : Spot} : (p.matchAt s).isSome ↔ ∃ t, p.Reaches s.forget t := by
  rw [matchAt, Option.isSome_map, run_isSome]
  exact exists_congr fun t => and_iff_left rfl

theorem reaches_of_matchAt {p : Pattern} {s : Spot} {m : Match} (h : p.matchAt s = some m) :
    m.start = s.forget ∧ p.Reaches s.forget m.stop := by
  obtain ⟨t, ht, rfl⟩ := Option.map_eq_some_iff.mp h
  obtain ⟨t', hreaches, heq⟩ := exists_reaches ht
  cases heq
  exact ⟨rfl, hreaches⟩

theorem findFrom_isSome {p : Pattern} {l : List Char} {s : Spot} (hl : s.after = l) :
    (p.findFrom l s).isSome ↔ ∃ u v, l = u ++ v ∧ ∃ t, p.Reaches (s.skip u v).forget t := by
  induction l generalizing s with
  | nil =>
    rw [findFrom, matchAt_isSome]
    constructor
    · rintro ⟨t, ht⟩
      refine ⟨[], [], rfl, t, ?_⟩
      rwa [Spot.skip_nil hl]
    · rintro ⟨u, v, huv, t, ht⟩
      obtain ⟨rfl, rfl⟩ := List.append_eq_nil_iff.mp huv.symm
      rw [Spot.skip_nil hl] at ht
      exact ⟨t, ht⟩
  | cons c l ih =>
    have hrest := ih (s := s.next c l) rfl
    have hhere : (p.matchAt s).isSome ↔ ∃ t, p.Reaches (s.skip [] (c :: l)).forget t := by
      rw [matchAt_isSome, Spot.skip_nil hl]
    rw [findFrom]
    constructor
    · intro h
      cases hmatch : p.matchAt s with
      | some m =>
        obtain ⟨t, ht⟩ := hhere.mp (by rw [hmatch]; rfl)
        exact ⟨[], c :: l, rfl, t, ht⟩
      | none =>
        rw [hmatch] at h
        obtain ⟨u, v, rfl, t, ht⟩ := hrest.mp h
        rw [Spot.skip_cons] at ht
        exact ⟨c :: u, v, rfl, t, ht⟩
    · rintro ⟨u, v, huv, ht⟩
      cases hmatch : p.matchAt s with
      | some m => rfl
      | none =>
        cases u with
        | nil =>
          rw [List.nil_append] at huv
          rw [← huv] at ht
          have hsome := hhere.mpr ht
          rw [hmatch] at hsome
          cases hsome
        | cons d u =>
          rw [List.cons_append, List.cons.injEq] at huv
          obtain ⟨rfl, rfl⟩ := huv
          rw [← Spot.skip_cons] at ht
          exact hrest.mpr ⟨u, v, rfl, ht⟩

/-- **Where a pattern occurs.** -/
theorem occurs_iff {p : Pattern} {text : List Char} :
    p.occurs text = true ↔ ∃ u v, text = u ++ v ∧ ∃ t, p.Reaches (.between u v) t := by
  have hplace (u v : List Char) : ((Spot.start text).skip u v).forget = .between u v := by
    simp [Spot.start, Spot.skip, Spot.forget, Spot.between]
  rw [occurs, find, findAfter, findFrom_isSome rfl]
  simp only [hplace]
  rfl

theorem startsAt_iff {p : Pattern} {text : List Char} :
    p.startsAt text = true ↔ ∃ t, p.Reaches (.between [] text) t :=
  matchAt_isSome

theorem findAll_eq_nil {p : Pattern} {text : List Char} (h : p.occurs text = false) : p.findAll text = [] := by
  have hnone : p.findAfter (Spot.start text) = none := by
    rw [occurs, find] at h
    exact Option.isNone_iff_eq_none.mp (Option.isSome_eq_false_iff.mp h)
  rw [findAll, findAllAfter, hnone]

theorem findAll_eq_singleton {p : Pattern} {text : List Char} {m : Match} (hm : p.matchAt (Spot.start text) = some m)
    (hlt : m.start.position < m.stop.position) (h : p.findAfter m.stop = none) : p.findAll text = [m] := by
  have hfirst : p.findAfter (Spot.start text) = some m := by
    rw [findAfter]
    cases hafter : (Spot.start text).after with
    | nil => rw [findFrom, hm]
    | cons c rest => rw [findFrom, hm]
  have hfuel : text.length ≠ 0 := by
    intro hzero
    obtain ⟨hstart, hreaches⟩ := reaches_of_matchAt hm
    obtain ⟨u, hafter, -, hposition⟩ := hreaches.exists_skipped
    have hempty : u ++ m.stop.after = [] := hafter.symm.trans (List.length_eq_zero_iff.mp hzero)
    obtain ⟨rfl, -⟩ := List.append_eq_nil_iff.mp hempty
    rw [hstart, hposition] at hlt
    exact Nat.lt_irrefl _ hlt
  obtain ⟨fuel, hfuel⟩ := Nat.exists_eq_succ_of_ne_zero hfuel
  rw [findAll, hfuel, findAllAfter, hfirst]
  dsimp only
  rw [if_pos hlt, findAllAfter, h]

/-- The first place where a pattern matches, if it cannot start with any character in front of that place. -/
theorem findFrom_eq_some {p : Pattern} {u v : List Char} {m : Match}
    (hu : ∀ s t, p.Reaches s t → ∀ c ∈ u, s.after.head? ≠ some c) {s : Spot} (hm : p.matchAt (s.skip u v) = some m)
    (hs : s.after = u ++ v) : p.findFrom (u ++ v) s = some m := by
  induction u generalizing s with
  | nil =>
    rw [List.nil_append, Spot.skip_nil hs] at *
    cases v with
    | nil => exact hm
    | cons c v => rw [findFrom, hm]
  | cons c u ih =>
    have hnone : p.matchAt s = none := by
      rw [← Option.isNone_iff_eq_none, ← Option.isSome_eq_false_iff, Bool.eq_false_iff]
      intro hsome
      obtain ⟨t, ht⟩ := matchAt_isSome.mp hsome
      refine hu _ t ht c List.mem_cons_self ?_
      show s.after.head? = some c
      rw [hs]
      rfl
    rw [← Spot.skip_cons] at hm
    rw [List.cons_append, findFrom, hnone]
    exact ih (fun s t h d hd => hu s t h d (List.mem_cons_of_mem c hd)) hm rfl

/-- A greedy repetition takes all it can if what comes after it succeeds there. -/
theorem runMany_eq {α : Type} {p : Char → Bool} {k : Spot → Option α} {u rest : List Char}
    (hu : ∀ c ∈ u, p c = true) (hrest : rest.head?.any p = false) {s : Spot} (hs : s.after = u ++ rest)
    (hk : (k (s.skip u rest)).isSome) : runMany p k (u ++ rest) s = k (s.skip u rest) := by
  induction u generalizing s with
  | nil =>
    rw [List.nil_append] at hs ⊢
    rw [Spot.skip_nil hs]
    cases rest with
    | nil => rfl
    | cons c rest =>
      have hc : ¬ p c = true := by simpa using hrest
      rw [runMany, if_neg hc]
  | cons c u ih =>
    rw [List.forall_mem_cons] at hu
    rw [← Spot.skip_cons] at hk
    have hnext := ih hu.2 (s := s.next c (u ++ rest)) rfl hk
    obtain ⟨a, ha⟩ := Option.isSome_iff_exists.mp hk
    rw [List.cons_append, runMany, if_pos hu.1, hnext, ← Spot.skip_cons, ha]

/-- A lazy repetition takes what it has to if what comes after it succeeds nowhere before. -/
theorem runLazy_eq {α : Type} {p : Char → Bool} {k : Spot → Option α} {u rest : List Char}
    (hu : ∀ c ∈ u, p c = true) {s : Spot} (hs : s.after = u ++ rest)
    (hnone : ∀ x y, u = x ++ y → y ≠ [] → k (s.skip x (y ++ rest)) = none) (hk : (k (s.skip u rest)).isSome) :
    runLazy p k (u ++ rest) s = k (s.skip u rest) := by
  induction u generalizing s with
  | nil =>
    rw [List.nil_append] at hs ⊢
    rw [Spot.skip_nil hs] at hk ⊢
    cases rest with
    | nil => rfl
    | cons c rest =>
      obtain ⟨a, ha⟩ := Option.isSome_iff_exists.mp hk
      rw [runLazy, ha]
  | cons c u ih =>
    rw [List.forall_mem_cons] at hu
    have hhere := hnone [] (c :: u) rfl (List.cons_ne_nil c u)
    rw [Spot.skip_nil hs] at hhere
    rw [← Spot.skip_cons] at hk ⊢
    rw [List.cons_append, runLazy, hhere]
    refine (if_pos hu.1).trans (ih hu.2 rfl ?_ hk)
    rintro x y rfl hy
    rw [List.append_assoc, Spot.skip_cons]
    exact hnone (c :: x) y rfl hy

theorem run_append {α : Type} (p q : Pattern) (s : Spot) (k : Spot → Option α) :
    (p ++ q).run s k = p.run s fun t => q.run t k :=
  rfl

theorem run_eq_of_unique {α : Type} {p : Pattern} {s t : Spot} (h : p.Reaches s t)
    (hunique : ∀ t', p.Reaches s t' → t' = t) (k : Spot → Option α) : p.run s k = k t := by
  cases hk : k t with
  | none =>
    rw [← Option.not_isSome_iff_eq_none, run_isSome]
    rintro ⟨t', ht', hsome⟩
    rw [hunique t' ht', hk] at hsome
    cases hsome
  | some a =>
    have hsome : (p.run s k).isSome := isSome_run h (by rw [hk]; rfl)
    obtain ⟨b, hb⟩ := Option.isSome_iff_exists.mp hsome
    obtain ⟨t', ht', hkt⟩ := exists_reaches hb
    rw [hunique t' ht', hk] at hkt
    rw [hb, hkt]

theorem run_capture_wordChars1 {n : Nat} {w rest : List Char} (hw : w ≠ []) (hword : ∀ c ∈ w, isWordChar c = true)
    (hrest : rest.head?.any isWordChar = false) {s : Spot} (hs : s.after = w ++ rest) :
    ∃ t, (capture n wordChars1).run s some = some t ∧ t.captures = (n, ⟨s.after, w.length⟩) :: s.captures := by
  obtain ⟨c, u, rfl⟩ := List.exists_cons_of_ne_nil hw
  rw [List.forall_mem_cons] at hword
  let caught (t : Spot) : Option Spot :=
    some { t with captures := (n, ⟨c :: u ++ rest, t.position - s.position⟩) :: t.captures }
  have hmany := runMany_eq (k := caught) hword.2 hrest (s := s.next c (u ++ rest)) rfl rfl
  rw [Spot.skip_cons] at hmany
  have hone : (capture n wordChars1).run s some = runMany isWordChar caught (u ++ rest) (s.next c (u ++ rest)) := by
    rw [wordChars1, many1, run, run, run, hs]
    exact if_pos hword.1
  refine ⟨_, hone.trans hmany, ?_⟩
  show (n, Span.mk (c :: u ++ rest) (s.position + (c :: u).length - s.position)) :: s.captures = _
  rw [Nat.add_sub_cancel_left, hs]

/-! ## Usual pieces -/

theorem reaches_opt {p : Pattern} {s t : Spot} : (opt p).Reaches s t ↔ p.Reaches s t ∨ t = s :=
  Iff.rfl

theorem reaches_char {c : Char} {s t : Spot} :
    (char c).Reaches s t ↔ ∃ rest, s.after = c :: rest ∧ t = s.next c rest := by
  constructor
  · rintro ⟨d, rest, hs, hd, rfl⟩
    obtain rfl : d = c := by simpa using hd
    exact ⟨rest, hs, rfl⟩
  · rintro ⟨rest, hs, rfl⟩
    exact ⟨c, rest, hs, by simp, rfl⟩

theorem reaches_word {w : String} {s t : Spot} :
    (word w).Reaches s t ↔ ∃ rest, s.after = w.toList ++ rest ∧ t = s.skip w.toList rest := by
  rw [word]
  induction w.toList generalizing s with
  | nil =>
    constructor
    · rintro rfl
      exact ⟨t.after, rfl, rfl⟩
    · rintro ⟨rest, rfl, rfl⟩
      rfl
  | cons c l ih =>
    rw [List.foldr_cons]
    constructor
    · rintro ⟨m, hm, ht⟩
      obtain ⟨after, hs, rfl⟩ := reaches_char.mp hm
      obtain ⟨rest, hrest, rfl⟩ := ih.mp ht
      obtain rfl : after = l ++ rest := hrest
      exact ⟨rest, hs, Spot.skip_cons s c l rest⟩
    · rintro ⟨rest, hs, rfl⟩
      exact ⟨_, reaches_char.mpr ⟨l ++ rest, hs, rfl⟩, ih.mpr ⟨rest, rfl, (Spot.skip_cons s c l rest).symm⟩⟩

theorem reaches_firstOf {ps : List Pattern} {s t : Spot} : (firstOf ps).Reaches s t ↔ ∃ p ∈ ps, p.Reaches s t := by
  induction ps with
  | nil =>
    constructor
    · rintro ⟨c, rest, -, hc, -⟩
      cases hc
    · rintro ⟨p, hp, -⟩
      cases hp
  | cons p ps ih =>
    cases ps with
    | nil => simp [firstOf]
    | cons q ps =>
      have hfirst : (firstOf (p :: q :: ps)).Reaches s t ↔ p.Reaches s t ∨ (firstOf (q :: ps)).Reaches s t := Iff.rfl
      rw [hfirst, ih]
      constructor
      · rintro (h | ⟨r, hr, h⟩)
        · exact ⟨p, List.mem_cons_self, h⟩
        · exact ⟨r, List.mem_cons_of_mem p hr, h⟩
      · rintro ⟨r, hr, h⟩
        rcases List.mem_cons.mp hr with rfl | hr
        · exact Or.inl h
        · exact Or.inr ⟨r, hr, h⟩

theorem reaches_oneOf {ws : List String} {s t : Spot} :
    (oneOf ws).Reaches s t ↔ ∃ w ∈ ws, ∃ rest, s.after = w.toList ++ rest ∧ t = s.skip w.toList rest := by
  rw [oneOf, reaches_firstOf]
  constructor
  · rintro ⟨p, hp, h⟩
    obtain ⟨w, hw, rfl⟩ := List.mem_map.mp hp
    exact ⟨w, hw, reaches_word.mp h⟩
  · rintro ⟨w, hw, h⟩
    exact ⟨word w, List.mem_map_of_mem hw, reaches_word.mpr h⟩

theorem reaches_textStart {s t : Spot} : textStart.Reaches s t ↔ s.before = [] ∧ t = s := by
  have hhead : s.before.head?.isNone = true ↔ s.before = [] := by simp
  exact and_congr_left fun _ => hhead

theorem reaches_lineStart {s t : Spot} : lineStart.Reaches s t ↔ (∀ c ∈ s.before.head?, c = '\n') ∧ t = s := by
  have hhead : s.before.head?.all (· == '\n') = true ↔ ∀ c ∈ s.before.head?, c = '\n' := by
    cases s.before.head?
    all_goals simp
  exact and_congr_left fun _ => hhead

theorem reaches_textEnd {s t : Spot} : textEnd.Reaches s t ↔ (s.after = [] ∨ s.after = ['\n']) ∧ t = s := by
  have hend : (s.after.isEmpty || s.after == ['\n']) = true ↔ s.after = [] ∨ s.after = ['\n'] := by simp
  exact and_congr_left fun _ => hend

/-- Whether there is the edge of a word between two pieces of text, the one before it last character first. -/
def isEdge (before after : List Char) : Bool :=
  (before.head?.any isWordChar) != (after.head?.any isWordChar)

theorem reaches_edge {s t : Spot} : edge.Reaches s t ↔ isEdge s.before s.after = true ∧ t = s :=
  Iff.rfl

/-! ## Leading over a text -/

/-- From a place that a text follows, a pattern leads to the end of that text. -/
def LeadsOver (p : Pattern) (u : List Char) (s : Spot) : Prop :=
  ∀ rest, s.after = u ++ rest → ∃ t, p.Reaches s t ∧ t.after = rest

theorem LeadsOver.append {p q : Pattern} {u v : List Char} {s : Spot} (hp : p.LeadsOver u s)
    (hq : ∀ m, q.LeadsOver v m) : (p ++ q).LeadsOver (u ++ v) s := by
  intro rest hs
  rw [List.append_assoc] at hs
  obtain ⟨m, hm, hafter⟩ := hp (v ++ rest) hs
  obtain ⟨t, ht, hrest⟩ := hq m rest hafter
  exact ⟨t, ⟨m, hm, ht⟩, hrest⟩

theorem leadsOver_many {greedy : Bool} {q : Char → Bool} {u : List Char} (hu : ∀ c ∈ u, q c = true) (s : Spot) :
    (many greedy q).LeadsOver u s :=
  fun rest hs => ⟨s.skip u rest, ⟨u, rest, hs, hu, rfl⟩, rfl⟩

theorem leadsOver_many1 {q : Char → Bool} {u : List Char} (hne : u ≠ []) (hu : ∀ c ∈ u, q c = true) (s : Spot) :
    (many1 q).LeadsOver u s := by
  obtain ⟨c, v, rfl⟩ := List.exists_cons_of_ne_nil hne
  rw [List.forall_mem_cons] at hu
  intro rest hs
  exact ⟨_, ⟨s.next c (v ++ rest), ⟨c, v ++ rest, hs, hu.1, rfl⟩, v, rest, rfl, hu.2, rfl⟩, rfl⟩

theorem leadsOver_char (c : Char) (s : Spot) : (char c).LeadsOver [c] s :=
  fun rest hs => ⟨s.next c rest, reaches_char.mpr ⟨rest, hs, rfl⟩, rfl⟩

theorem leadsOver_caseless (w : String) (s : Spot) : (caseless w).LeadsOver w.toList s := by
  rw [caseless]
  induction w.toList generalizing s with
  | nil => exact fun rest hs => ⟨s, rfl, hs⟩
  | cons c l ih =>
    intro rest hs
    obtain ⟨t, ht, hrest⟩ := ih (s.next c (l ++ rest)) rest rfl
    exact ⟨t, ⟨_, ⟨c, l ++ rest, hs, by simp [isCaseless], rfl⟩, ht⟩, hrest⟩

theorem leadsOver_of_reaches_caseless {w : String} {v : List Char} {s t : Spot} (h : (caseless w).Reaches s t)
    (hv : Skipped v s t) (s' : Spot) : (caseless w).LeadsOver v s' := by
  rw [caseless] at h ⊢
  generalize w.toList = l at h ⊢
  induction l generalizing s s' v with
  | nil =>
    obtain rfl : t = s := h
    obtain rfl : v = [] := by simpa using hv.1
    exact fun rest hs => ⟨s', rfl, hs⟩
  | cons c l ih =>
    obtain ⟨m, ⟨d, after, hd, hc, rfl⟩, ht⟩ := h
    obtain ⟨v', hv'⟩ := ht.exists_skipped
    obtain rfl : v = d :: v' := by
      have hafter : v ++ t.after = d :: v' ++ t.after := by
        rw [← hv.1, hd, List.cons_append, ← hv'.1]
        rfl
      exact List.append_cancel_right hafter
    intro rest hs
    obtain ⟨t', ht', hrest⟩ := ih hv' (s'.next d (v' ++ rest)) ht rest rfl
    exact ⟨t', ⟨_, ⟨d, v' ++ rest, hs, hc, rfl⟩, ht'⟩, hrest⟩

theorem leadsOver_lineStart {s : Spot} (hs : ∀ c ∈ s.before.head?, c = '\n') : lineStart.LeadsOver [] s :=
  fun _ hrest => ⟨s, reaches_lineStart.mpr ⟨hs, rfl⟩, hrest⟩

theorem leadsOver_word (w : String) (s : Spot) : (word w).LeadsOver w.toList s :=
  fun rest hs => ⟨s.skip w.toList rest, reaches_word.mpr ⟨rest, hs, rfl⟩, rfl⟩

theorem leadsOver_oneOf {w : String} {ws : List String} (hw : w ∈ ws) (s : Spot) : (oneOf ws).LeadsOver w.toList s :=
  fun rest hs => ⟨s.skip w.toList rest, reaches_oneOf.mpr ⟨w, hw, rest, hs, rfl⟩, rfl⟩

theorem occurs_of_leadsOver {p : Pattern} {u : List Char} (h : ∀ s, p.LeadsOver u s) (x rest : List Char) :
    p.occurs (x ++ (u ++ rest)) = true := by
  obtain ⟨t, ht, -⟩ := h (.between x (u ++ rest)) rest rfl
  exact occurs_iff.mpr ⟨x, u ++ rest, rfl, t, ht⟩

theorem LeadsOver.opt {p : Pattern} {u : List Char} {s : Spot} (h : p.LeadsOver u s) : (opt p).LeadsOver u s := by
  intro rest hs
  obtain ⟨t, ht, hrest⟩ := h rest hs
  exact ⟨t, reaches_opt.mpr (Or.inl ht), hrest⟩

theorem LeadsOver.capture {p : Pattern} {u : List Char} {s : Spot} (h : p.LeadsOver u s) (n : Nat) :
    (capture n p).LeadsOver u s := by
  intro rest hs
  obtain ⟨t, ht, hrest⟩ := h rest hs
  exact ⟨_, ⟨t, ht, rfl⟩, hrest⟩

/-! ## Patterns at the start of a text -/

def FromStart (p : Pattern) : Prop :=
  ∀ s t, p.Reaches s t → s.before = []

theorem fromStart_textStart : FromStart textStart :=
  fun _ _ h => (reaches_textStart.mp h).1

theorem FromStart.append {p : Pattern} (h : FromStart p) (q : Pattern) : FromStart (p ++ q) := by
  rintro s t ⟨m, hm, -⟩
  exact h s m hm

theorem occurs_fromStart {p : Pattern} (h : FromStart p) {text : List Char} :
    p.occurs text = true ↔ ∃ t, p.Reaches (.between [] text) t := by
  rw [occurs_iff]
  constructor
  · rintro ⟨u, v, rfl, t, ht⟩
    have hbefore : u.reverse = [] := h _ t ht
    obtain rfl := List.reverse_eq_nil_iff.mp hbefore
    exact ⟨t, ht⟩
  · rintro ⟨t, ht⟩
    exact ⟨[], text, rfl, t, ht⟩

/-- A whole text without line feeds is matched if the pattern leads to its end. -/
theorem occurs_whole {p : Pattern} {text : List Char} (h : '\n' ∉ text) :
    (whole p).occurs text = true ↔ ∃ t, p.Reaches (.between [] text) t ∧ t.after = [] := by
  rw [whole, occurs_fromStart ((fromStart_textStart.append p).append textEnd)]
  constructor
  · rintro ⟨t, m, ⟨m', hstart, hp⟩, hend⟩
    obtain ⟨-, rfl⟩ := reaches_textStart.mp hstart
    obtain ⟨hafter, rfl⟩ := reaches_textEnd.mp hend
    refine ⟨t, hp, hafter.resolve_right fun hfeed => h ?_⟩
    -- What is left is part of the text, so it is no line feed.
    obtain ⟨u, hu, -⟩ := hp.exists_skipped
    have htext : text = u ++ t.after := hu
    rw [htext, hfeed]
    exact List.mem_append_right u List.mem_cons_self
  · rintro ⟨t, hp, hafter⟩
    exact ⟨t, t, ⟨_, reaches_textStart.mpr ⟨rfl, rfl⟩, hp⟩, reaches_textEnd.mpr ⟨Or.inl hafter, rfl⟩⟩

/-! ## Patterns at the start of a line -/

def FromLineStart (p : Pattern) : Prop :=
  ∀ s t, p.Reaches s t → ∀ c ∈ s.before.head?, c = '\n'

theorem fromLineStart_lineStart : FromLineStart lineStart :=
  fun _ _ h => (reaches_lineStart.mp h).1

theorem FromLineStart.append {p : Pattern} (h : FromLineStart p) (q : Pattern) : FromLineStart (p ++ q) := by
  rintro s t ⟨m, hm, -⟩
  exact h s m hm

end ScenarioAudit.Pattern
