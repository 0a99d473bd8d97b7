import ScenarioAudit.Proofs.Pattern.Search

/-! # A match does not depend on what comes after it

A text that is cut off has fewer matches, but a match that ends before the cut is still the one that is found at its
place (`matchAt_cut`), as long as the tests of the pattern do not look beyond what it takes in (`Local`). What comes
before a place counts as far as the last character of it (`Cut`).
-/

namespace ScenarioAudit

open ScenarioAudit.Text

/-- Two places with the same to see, except that the text after the second one ends in front of a piece `v`. -/
structure Spot.Cut (v : List Char) (s s' : Spot) : Prop where
  after : s.after = s'.after ++ v
  behind : s.before.head? = s'.before.head?
  captured : ∀ n, s.captured n = s'.captured n

namespace Pattern

variable {v : List Char}

/-- A pattern that takes in a character at least. -/
def grows : Pattern → Bool
  | one _ => true
  | seq p q => p.grows || q.grows
  | alt p q => p.grows && q.grows
  | capture _ p => p.grows
  | nothing | many _ _ | star _ | same _ | look _ => false

theorem ne_nil_of_grows {p : Pattern} (hp : p.grows = true) {s t : Spot} (h : p.Reaches s t) {u : List Char}
    (hu : Skipped u s t) : u ≠ [] := by
  induction p generalizing s t u with
  | one q =>
    obtain ⟨c, rest, hs, -, rfl⟩ := h
    have huc : u = [c] := hu.unique (skipped_next hs)
    exact huc ▸ List.cons_ne_nil c []
  | seq p q ihp ihq =>
    obtain ⟨m, hm, ht⟩ := h
    obtain ⟨x, hx⟩ := hm.exists_skipped
    obtain ⟨y, hy⟩ := ht.exists_skipped
    obtain rfl : u = x ++ y := hu.unique (hx.trans hy)
    rcases Bool.or_eq_true_iff.mp hp with hp | hq
    · exact List.append_ne_nil_of_left_ne_nil (ihp hp hm hx) y
    · exact List.append_ne_nil_of_right_ne_nil x (ihq hq ht hy)
  | alt p q ihp ihq =>
    obtain ⟨hp, hq⟩ := Bool.and_eq_true_iff.mp hp
    rcases h with h | h
    · exact ihp hp h hu
    · exact ihq hq h hu
  | capture n p ih =>
    obtain ⟨m, hm, rfl⟩ := h
    exact ih hp hm hu
  | nothing | many | star | same | look => cases hp

/-- Tests of a pattern that look at what it takes in and at the character before that. The flag says that more has to be
taken in after the pattern, so that its tests may look at the character after them. -/
def Local : Bool → Pattern → Prop
  | _, nothing | _, one _ | _, many _ _ | _, same _ => True
  | inside, seq p q => p.Local (inside || q.grows) ∧ q.Local inside
  | inside, alt p q => p.Local inside ∧ q.Local inside
  | _, star p => p.grows = true ∧ p.Local false
  | inside, capture _ p => p.Local inside
  | inside, look test =>
    (∀ before after after', test before after = test before after') ∨
      inside = true ∧ ∀ before c rest rest', test before (c :: rest) = test before (c :: rest')

section Pieces

variable {inside : Bool} {p q : Pattern}

@[simp] theorem grows_append : (p ++ q).grows = (p.grows || q.grows) := rfl

@[simp] theorem grows_or : (p ||| q).grows = (p.grows && q.grows) := rfl

@[simp] theorem grows_one (f : Char → Bool) : (one f).grows = true := rfl

@[simp] theorem grows_char (c : Char) : (char c).grows = true := rfl

@[simp] theorem grows_many1 (f : Char → Bool) : (many1 f).grows = true := rfl

@[simp] theorem local_append : (p ++ q).Local inside ↔ p.Local (inside || q.grows) ∧ q.Local inside := Iff.rfl

@[simp] theorem local_or : (p ||| q).Local inside ↔ p.Local inside ∧ q.Local inside := Iff.rfl

@[simp] theorem local_capture (n : Nat) : (capture n p).Local inside ↔ p.Local inside := Iff.rfl

@[simp] theorem local_star : (star p).Local inside ↔ p.grows = true ∧ p.Local false := Iff.rfl

@[simp] theorem local_opt : (opt p).Local inside ↔ p.Local inside :=
  and_iff_left trivial

@[simp] theorem local_one (f : Char → Bool) : (one f).Local inside := trivial

@[simp] theorem local_many (greedy : Bool) (f : Char → Bool) : (many greedy f).Local inside := trivial

@[simp] theorem local_same (n : Nat) : (same n).Local inside := trivial

@[simp] theorem local_char (c : Char) : (char c).Local inside := trivial

@[simp] theorem local_many1 (f : Char → Bool) : (many1 f).Local inside :=
  ⟨trivial, trivial⟩

@[simp] theorem local_textStart : textStart.Local inside :=
  Or.inl fun _ _ _ => rfl

@[simp] theorem local_lineStart : lineStart.Local inside :=
  Or.inl fun _ _ _ => rfl

@[simp] theorem local_edge : edge.Local true :=
  Or.inr ⟨rfl, fun _ _ _ _ => rfl⟩

@[simp] theorem local_word (w : String) : (word w).Local inside := by
  rw [word]
  induction w.toList with
  | nil => trivial
  | cons c l ih => exact ⟨trivial, ih⟩

theorem local_firstOf {ps : List Pattern} (h : ∀ p ∈ ps, p.Local inside) : (firstOf ps).Local inside := by
  induction ps with
  | nil => trivial
  | cons p ps ih =>
    rw [List.forall_mem_cons] at h
    cases ps with
    | nil => exact h.1
    | cons q ps => exact ⟨h.1, ih h.2⟩

@[simp] theorem local_oneOf (ws : List String) : (oneOf ws).Local inside := by
  apply local_firstOf
  intro p hp
  obtain ⟨w, -, rfl⟩ := List.mem_map.mp hp
  exact local_word w

end Pieces

/-! ## What a run finds -/

/-- What is found in a text and in the text that is cut off: nothing in the second one if there is nothing in the first
one, and the same if that ends before the cut. -/
def Follows (v : List Char) (found found' : Option Spot) : Prop :=
  (found = none → found' = none) ∧
    ∀ a, found = some a → v.length ≤ a.after.length → ∃ a', found' = some a' ∧ a.Cut v a'

/-- What is found from places beyond the cut ends beyond it. -/
def Late (v : List Char) (k : Spot → Option Spot) : Prop :=
  ∀ t a, t.after.length < v.length → k t = some a → a.after.length < v.length

theorem Late.run {k : Spot → Option Spot} (hk : Late v k) (p : Pattern) : Late v fun t => p.run t k := by
  intro t a ht ha
  obtain ⟨t', hreaches, hkt⟩ := exists_reaches ha
  obtain ⟨u, hu⟩ := hreaches.exists_skipped
  refine hk t' a (Nat.lt_of_le_of_lt ?_ ht) hkt
  rw [hu.1, List.length_append]
  exact Nat.le_add_left _ _

theorem follows_none : Follows v none none :=
  ⟨fun _ => rfl, nofun⟩

theorem follows_late {found : Option Spot} (h : ∀ a, found = some a → a.after.length < v.length) :
    Follows v found none :=
  ⟨fun _ => rfl, fun a ha hlong => absurd (h a ha) (Nat.not_lt.mpr hlong)⟩

theorem Follows.or {first first' second second' : Option Spot} (hfirst : Follows v first first')
    (hsecond : Follows v second second') : Follows v (first.or second) (first'.or second') := by
  cases first with
  | none =>
    rw [hfirst.1 rfl]
    exact hsecond
  | some a =>
    refine ⟨nofun, ?_⟩
    rintro b ⟨⟩ hlong
    obtain ⟨a', rfl, hcut⟩ := hfirst.2 a rfl hlong
    exact ⟨a', rfl, hcut⟩

theorem Follows.or_late {first second second' : Option Spot} (hfirst : ∀ a, first = some a → a.after.length < v.length)
    (hsecond : Follows v second second') : Follows v (first.or second) second' :=
  (follows_late hfirst).or hsecond

section Run

variable {k k' : Spot → Option Spot} {s s' : Spot}

theorem runMany_cons (q : Char → Bool) (c : Char) (rest : List Char) : runMany q k (c :: rest) s =
    if q c then (runMany q k rest (s.next c rest)).or (k s) else k s := by
  rw [runMany]
  cases runMany q k rest (s.next c rest) <;> rfl

theorem runLazy_cons (q : Char → Bool) (c : Char) (rest : List Char) : runLazy q k (c :: rest) s =
    (k s).or (if q c then runLazy q k rest (s.next c rest) else none) := by
  rw [runLazy]
  cases k s <;> rfl

theorem runStar_succ (step : Spot → (Spot → Option Spot) → Option Spot) (fuel : Nat) :
    runStar step k (fuel + 1) s = (step s (runStar step k fuel)).or (k s) := by
  rw [runStar]
  cases step s (runStar step k fuel) <;> rfl

theorem run_alt (p q : Pattern) : (alt p q).run s k = (p.run s k).or (q.run s k) := by
  rw [run]
  cases p.run s k <;> rfl

/-- The continuations agree on the places after the same piece of text, which is not empty if something has to be taken
in there. -/
def Continues (v : List Char) (grows : Bool) (s s' : Spot) (k k' : Spot → Option Spot) : Prop :=
  ∀ u t t', (grows = true → u ≠ []) → Skipped u s t → Skipped u s' t' → t.Cut v t' → Follows v (k t) (k' t')

/-- From the cut on, nothing is found unless it ends beyond the cut. -/
def NeedsMore (v : List Char) (k k' : Spot → Option Spot) : Prop :=
  (∀ t', t'.after = [] → k' t' = none) ∧
    ∀ t a, t.after.length ≤ v.length → k t = some a → a.after.length < v.length

theorem Continues.refl (h : Continues v false s s' k k') (hcut : s.Cut v s') : Follows v (k s) (k' s') :=
  h [] s s' (fun hfalse => absurd hfalse Bool.false_ne_true) (.refl s) (.refl s') hcut

theorem Continues.trans {grows grows' : Bool} {u : List Char} {t t' : Spot} (h : Continues v grows' s s' k k')
    (hgrows : ∀ w, (grows = true → w ≠ []) → grows' = true → u ++ w ≠ []) (hu : Skipped u s t)
    (hu' : Skipped u s' t') : Continues v grows t t' k k' := by
  intro w x x' hw hx hx' hcut
  exact h (u ++ w) x x' (hgrows w hw) (hu.trans hx) (hu'.trans hx') hcut

theorem Continues.next {grows : Bool} {u : List Char} {t t' : Spot} (h : Continues v false s s' k k')
    (hu : Skipped u s t) (hu' : Skipped u s' t') : Continues v grows t t' k k' :=
  h.trans (fun _ _ hfalse => absurd hfalse Bool.false_ne_true) hu hu'

theorem cut_next {c : Char} {rest : List Char} (hcut : s.Cut v s') :
    (s.next c (rest ++ v)).Cut v (s'.next c rest) :=
  ⟨rfl, rfl, hcut.captured⟩

theorem cut_skip {u rest : List Char} (hcut : s.Cut v s') : (s.skip u (rest ++ v)).Cut v (s'.skip u rest) := by
  refine ⟨rfl, ?_, hcut.captured⟩
  show (u.reverse ++ s.before).head? = (u.reverse ++ s'.before).head?
  rw [List.head?_append, List.head?_append, hcut.behind]

theorem follows_many {greedy : Bool} {q : Char → Bool} (hk : Continues v false s s' k k') (hlate : Late v k)
    (hcut : s.Cut v s') : Follows v ((many greedy q).run s k) ((many greedy q).run s' k') := by
  have hrun : ∀ (l : List Char) (s s' : Spot), s'.after = l → Continues v false s s' k k' → s.Cut v s' →
      Follows v (runMany q k (l ++ v) s) (runMany q k' l s') ∧
      Follows v (runLazy q k (l ++ v) s) (runLazy q k' l s') := by
    intro l
    induction l with
    | nil =>
      intro s s' hs' hk hcut
      have hafter : s.after = v := by rw [hcut.after, hs', List.nil_append]
      have hhere := hk.refl hcut
      cases v with
      | nil => exact ⟨hhere, hhere⟩
      | cons c v =>
        -- All places after the first one are beyond the cut.
        have hbeyond (greedy : Bool) {a : Spot} (h : (many greedy q).run (s.next c v) k = some a) :
            a.after.length < (c :: v).length :=
          hlate.run (many greedy q) (s.next c v) a (Nat.lt_succ_self v.length) h
        rw [List.nil_append, runMany_cons, runMany, runLazy_cons, runLazy]
        constructor
        · split
          · exact hhere.or_late fun a ha => hbeyond true ha
          · exact hhere
        · rw [← Option.or_none (o := k' s')]
          refine hhere.or (follows_late fun a ha => ?_)
          split at ha
          · exact hbeyond false ha
          · cases ha
    | cons c l ih =>
      intro s s' hs' hk hcut
      have hs : s.after = c :: (l ++ v) := by rw [hcut.after, hs', List.cons_append]
      have hnext : Continues v false (s.next c (l ++ v)) (s'.next c l) k k' :=
        hk.next (skipped_next hs) (skipped_next hs')
      obtain ⟨hgreedy, hlazy⟩ := ih (s.next c (l ++ v)) (s'.next c l) rfl hnext (cut_next hcut)
      have hhere := hk.refl hcut
      rw [List.cons_append, runMany_cons, runMany_cons, runLazy_cons, runLazy_cons]
      constructor
      · split
        · exact hgreedy.or hhere
        · exact hhere
      · refine hhere.or ?_
        split
        · exact hlazy
        · exact follows_none
  have hafter := hcut.after
  cases greedy with
  | true =>
    rw [run, run, hafter]
    exact (hrun s'.after s s' rfl hk hcut).1
  | false =>
    rw [run, run, hafter]
    exact (hrun s'.after s s' rfl hk hcut).2

/-- Repetitions from beyond the cut end beyond it. -/
theorem Late.runStar {step : Spot → (Spot → Option Spot) → Option Spot}
    (hgrows : ∀ (s : Spot) (k : Spot → Option Spot) a, step s k = some a →
      ∃ u t, u ≠ [] ∧ Skipped u s t ∧ k t = some a)
    (hlate : Late v k) (fuel : Nat) : Late v (runStar step k fuel) := by
  intro t a ht ha
  induction fuel generalizing t with
  | zero => exact hlate t a ht ha
  | succ fuel ih =>
    rw [runStar_succ, Option.or_eq_some_iff] at ha
    rcases ha with hrun | ⟨-, ha⟩
    · obtain ⟨u, t', -, hu, hrest⟩ := hgrows t _ a hrun
      refine ih t' (Nat.lt_of_le_of_lt ?_ ht) hrest
      rw [hu.1, List.length_append]
      exact Nat.le_add_left _ _
    · exact hlate t a ht ha

theorem follows_star {step : Spot → (Spot → Option Spot) → Option Spot}
    (hgrows : ∀ (s : Spot) (k : Spot → Option Spot) a, step s k = some a →
      ∃ u t, u ≠ [] ∧ Skipped u s t ∧ k t = some a)
    (hstep : ∀ (s s' : Spot) (k k' : Spot → Option Spot), Continues v true s s' k k' → Late v k → s.Cut v s' →
      Follows v (step s k) (step s' k'))
    {fuel fuel' : Nat} (hfuel : s.after.length ≤ fuel) (hfuel' : s'.after.length ≤ fuel')
    (hk : Continues v false s s' k k') (hlate : Late v k) (hcut : s.Cut v s') :
    Follows v (runStar step k fuel s) (runStar step k' fuel' s') := by
  induction fuel' generalizing fuel s s' with
  | zero =>
    have hs' : s'.after = [] := List.length_eq_zero_iff.mp (Nat.le_zero.mp hfuel')
    cases fuel with
    | zero => exact hk.refl hcut
    | succ fuel =>
      rw [runStar_succ, runStar]
      refine (hk.refl hcut).or_late ?_
      intro a ha
      obtain ⟨u, t, hu, hskipped, hrest⟩ := hgrows s _ a ha
      refine hlate.runStar hgrows fuel t a ?_ hrest
      have hlength : s.after.length = v.length := by rw [hcut.after, hs', List.nil_append]
      have hpositive := List.length_pos_iff.mpr hu
      rw [hskipped.1, List.length_append] at hlength
      omega
  | succ fuel' ih =>
    cases fuel with
    | zero =>
      -- Nothing comes after the place, so nothing more can be taken in.
      have hs : s.after = [] := List.length_eq_zero_iff.mp (Nat.le_zero.mp hfuel)
      have hs' : s'.after = [] := (List.append_eq_nil_iff.mp (hcut.after.symm.trans hs)).1
      have hnone : step s' (runStar step k' fuel') = none := by
        rw [Option.eq_none_iff_forall_not_mem]
        intro a ha
        obtain ⟨u, t, hu, hskipped, -⟩ := hgrows s' _ a ha
        exact hu (List.append_eq_nil_iff.mp (hskipped.1.symm.trans hs')).1
      rw [runStar, runStar_succ, hnone, Option.none_or]
      exact hk.refl hcut
    | succ fuel =>
      rw [runStar_succ, runStar_succ]
      refine Follows.or ?_ (hk.refl hcut)
      refine hstep s s' _ _ ?_ (hlate.runStar hgrows fuel) hcut
      intro u t t' hu ht ht' hcut'
      have hpositive := List.length_pos_iff.mpr (hu rfl)
      refine ih ?_ ?_ (hk.next ht ht') hcut'
      · rw [ht.1, List.length_append] at hfuel
        omega
      · rw [ht'.1, List.length_append] at hfuel'
        omega

theorem follows_one {q : Char → Bool} (hk : Continues v true s s' k k') (hlate : Late v k) (hcut : s.Cut v s') :
    Follows v ((one q).run s k) ((one q).run s' k') := by
  rw [run, run, hcut.after]
  cases hs' : s'.after with
  | nil =>
    rw [List.nil_append]
    refine follows_late fun a ha => ?_
    cases v with
    | nil => cases ha
    | cons c v =>
      dsimp only at ha
      split at ha
      · exact hlate (s.next c v) a (Nat.lt_succ_self v.length) ha
      · cases ha
  | cons c rest =>
    rw [List.cons_append]
    dsimp only
    split
    · have hs : s.after = c :: (rest ++ v) := by rw [hcut.after, hs', List.cons_append]
      exact hk [c] _ _ (fun _ => List.cons_ne_nil c []) (skipped_next hs) (skipped_next hs') (cut_next hcut)
    · exact follows_none

theorem NeedsMore.run (h : NeedsMore v k k') (q : Pattern) :
    NeedsMore v (fun t => q.run t k) fun t => q.run t k' := by
  obtain ⟨hnone, hbeyond⟩ := h
  constructor
  · intro t' ht'
    rw [Option.eq_none_iff_forall_not_mem]
    intro a ha
    obtain ⟨x, hreaches, hkx⟩ := exists_reaches ha
    obtain ⟨u, hu⟩ := hreaches.exists_skipped
    rw [hnone x (List.append_eq_nil_iff.mp (hu.1.symm.trans ht')).2] at hkx
    cases hkx
  · intro t a ht ha
    obtain ⟨x, hreaches, hkx⟩ := exists_reaches ha
    obtain ⟨u, hu⟩ := hreaches.exists_skipped
    refine hbeyond x a ?_ hkx
    rw [hu.1, List.length_append] at ht
    omega

theorem needsMore_of_grows {q : Pattern} (hgrows : q.grows = true) (hlate : Late v k) :
    NeedsMore v (fun t => q.run t k) fun t => q.run t k' := by
  constructor
  · intro t' ht'
    rw [Option.eq_none_iff_forall_not_mem]
    intro a ha
    obtain ⟨x, hreaches, -⟩ := exists_reaches ha
    obtain ⟨u, hu⟩ := hreaches.exists_skipped
    exact ne_nil_of_grows hgrows hreaches hu (List.append_eq_nil_iff.mp (hu.1.symm.trans ht')).1
  · intro t a ht ha
    obtain ⟨x, hreaches, hkx⟩ := exists_reaches ha
    obtain ⟨u, hu⟩ := hreaches.exists_skipped
    have hpositive := List.length_pos_iff.mpr (ne_nil_of_grows hgrows hreaches hu)
    refine hlate x a ?_ hkx
    rw [hu.1, List.length_append] at ht
    omega

/-- The piece that is captured is the one that was taken in, in both texts. -/
theorem Continues.push {grows : Bool} (hk : Continues v grows s s' k k') (n : Nat) :
    Continues v grows s s'
      (fun t => k { t with captures := (n, ⟨s.after, t.position - s.position⟩) :: t.captures })
      fun t => k' { t with captures := (n, ⟨s'.after, t.position - s'.position⟩) :: t.captures } := by
  intro u t t' hu ht ht' hcut
  have hpush {s t : Spot} (ht : Skipped u s t) (i : Nat) :
      Spot.captured { t with captures := (n, ⟨s.after, t.position - s.position⟩) :: t.captures } i =
        if n = i then u else t.captured i := by
    have hpiece : s.after.take (t.position - s.position) = u := by
      rw [ht.2.2, Nat.add_sub_cancel_left, ht.1, List.take_left]
    simp only [Spot.captured, List.find?_cons]
    by_cases hn : n = i
    · simp [hn, Span.text, hpiece]
    · simp [hn]
  refine hk u _ _ hu ht ht' ⟨hcut.after, hcut.behind, fun i => ?_⟩
  rw [hpush ht, hpush ht', hcut.captured]

theorem follows_same (n : Nat) (hk : Continues v false s s' k k') (hlate : Late v k) (hcut : s.Cut v s') :
    Follows v ((same n).run s k) ((same n).run s' k') := by
  rw [run, run, ← hcut.captured n]
  cases hrun' : runText (s.captured n) s' with
  | some t' =>
    obtain ⟨rest, hrest, rfl⟩ := runText_eq_some.mp hrun'
    have hs : s.after = s.captured n ++ (rest ++ v) := by rw [hcut.after, hrest, List.append_assoc]
    rw [runText_eq_some.mpr ⟨rest ++ v, hs, rfl⟩]
    exact hk _ _ _ (fun hfalse => absurd hfalse Bool.false_ne_true) (skipped_skip hs) (skipped_skip hrest) (cut_skip hcut)
  | none =>
    refine follows_late fun a ha => ?_
    cases hrun : runText (s.captured n) s with
    | none =>
      rw [hrun] at ha
      cases ha
    | some t =>
      rw [hrun] at ha
      obtain ⟨rest, hrest, rfl⟩ := runText_eq_some.mp hrun
      refine hlate _ a ?_ ha
      show rest.length < v.length
      -- Otherwise the text would come before the cut.
      refine Nat.lt_of_not_le fun hlong => ?_
      have hlength := congrArg List.length (hcut.after.symm.trans hrest)
      rw [List.length_append, List.length_append] at hlength
      have htaken : s.captured n <+: s.after := ⟨rest, hrest.symm⟩
      obtain ⟨x, hx⟩ : s.captured n <+: s'.after :=
        List.prefix_of_prefix_length_le htaken ⟨v, hcut.after.symm⟩ (by omega)
      rw [runText_eq_some.mpr ⟨x, hx.symm, rfl⟩] at hrun'
      cases hrun'

theorem follows_look {inside : Bool} {test : Option Char → List Char → Bool} (htest : (look test).Local inside)
    (hk : Continues v false s s' k k') (hmore : inside = true → NeedsMore v k k') (hcut : s.Cut v s') :
    Follows v ((look test).run s k) ((look test).run s' k') := by
  rw [run, run, hcut.behind]
  rcases htest with hsame | ⟨hinside, hhead⟩
  · rw [hsame s'.before.head? s.after s'.after]
    split
    · exact hk.refl hcut
    · exact follows_none
  · cases hs' : s'.after with
    | cons c rest =>
      rw [hcut.after, hs', List.cons_append, hhead s'.before.head? c (rest ++ v) rest]
      split
      · exact hk.refl hcut
      · exact follows_none
    | nil =>
      obtain ⟨hnone, hbeyond⟩ := hmore hinside
      have hsmall : (if test s'.before.head? [] then k' s' else none) = none := by
        split
        · exact hnone s' hs'
        · rfl
      rw [hsmall]
      refine follows_late fun a ha => ?_
      split at ha
      · have hlength : s.after.length = v.length := by rw [hcut.after, hs', List.nil_append]
        exact hbeyond s a (Nat.le_of_eq hlength) ha
      · cases ha

/-- **A run on a text that is cut off finds what ends before the cut.** -/
theorem run_cut {p : Pattern} {inside : Bool} (hp : p.Local inside) (hk : Continues v p.grows s s' k k')
    (hlate : Late v k) (hmore : inside = true → NeedsMore v k k') (hcut : s.Cut v s') :
    Follows v (p.run s k) (p.run s' k') := by
  induction p generalizing inside s s' k k' with
  | nothing => exact hk.refl hcut
  | one q => exact follows_one hk hlate hcut
  | many greedy q => exact follows_many hk hlate hcut
  | same n => exact follows_same n hk hlate hcut
  | look test => exact follows_look hp hk hmore hcut
  | seq p q ihp ihq =>
    rw [run, run]
    refine ihp hp.1 ?_ (hlate.run q) ?_ hcut
    · intro u t t' hu ht ht' hcut'
      refine ihq hp.2 (hk.trans ?_ ht ht') hlate hmore hcut'
      intro w hw hgrows
      rcases Bool.or_eq_true_iff.mp hgrows with hpgrows | hqgrows
      · exact List.append_ne_nil_of_left_ne_nil (hu hpgrows) w
      · exact List.append_ne_nil_of_right_ne_nil u (hw hqgrows)
    · intro hinside
      -- Either the second pattern takes in something, or what comes after it does.
      rcases Bool.or_eq_true_iff.mp hinside with hinside | hgrows
      · exact (hmore hinside).run q
      · exact needsMore_of_grows hgrows hlate
  | alt p q ihp ihq =>
    rw [run_alt, run_alt]
    have hboth {grows : Bool} (h : (p.grows && q.grows) = true → grows = true) : Continues v grows s s' k k' :=
      fun u t t' hu => hk u t t' fun hgrows => hu (h hgrows)
    refine Follows.or ?_ ?_
    · exact ihp hp.1 (hboth fun h => (Bool.and_eq_true_iff.mp h).1) hlate hmore hcut
    · exact ihq hp.2 (hboth fun h => (Bool.and_eq_true_iff.mp h).2) hlate hmore hcut
  | star p ih =>
    obtain ⟨hgrows, hp⟩ := hp
    rw [run, run]
    refine follows_star ?_ ?_ (Nat.le_refl _) (Nat.le_refl _) hk hlate hcut
    · intro s k a ha
      obtain ⟨t, ht, hkt⟩ := exists_reaches ha
      obtain ⟨u, hu⟩ := ht.exists_skipped
      exact ⟨u, t, ne_nil_of_grows hgrows ht hu, hu, hkt⟩
    · intro s s' k k' hk hlate hcut
      exact ih hp (hgrows ▸ hk) hlate (fun hfalse => absurd hfalse Bool.false_ne_true) hcut
  | capture n p ih =>
    rw [run, run]
    refine ih hp (hk.push n) (fun t a ht => hlate _ a ht) ?_ hcut
    intro hinside
    obtain ⟨hnone, hbeyond⟩ := hmore hinside
    exact ⟨fun t' ht' => hnone _ ht', fun t a ht => hbeyond _ a ht⟩

end Run

/-- **The match at a place is found in the text that is cut off as well, if it ends before the cut;** and if there is no
match, cutting the text off gives none. -/
theorem matchAt_cut {p : Pattern} (hp : p.Local false) {s s' : Spot} (hcut : s.forget.Cut v s'.forget) :
    (p.matchAt s = none → p.matchAt s' = none) ∧
      ∀ m, p.matchAt s = some m → v.length ≤ m.stop.after.length →
        ∃ m', p.matchAt s' = some m' ∧ m.stop.Cut v m'.stop := by
  have hrun : Follows v (p.run s.forget some) (p.run s'.forget some) := by
    refine run_cut hp ?_ ?_ nofun hcut
    · intro u t t' _ _ _ hcut'
      refine ⟨nofun, ?_⟩
      rintro a ⟨⟩ -
      exact ⟨t', rfl, hcut'⟩
    · rintro t a ht ⟨⟩
      exact ht
  constructor
  · intro hnone
    rw [matchAt, Option.map_eq_none_iff] at hnone ⊢
    exact hrun.1 hnone
  · intro m hm hlong
    obtain ⟨t, ht, rfl⟩ := Option.map_eq_some_iff.mp hm
    obtain ⟨t', ht', hcut'⟩ := hrun.2 t ht hlong
    exact ⟨⟨s'.forget, t'⟩, by rw [matchAt, ht', Option.map_some], hcut'⟩

section Cuts

variable {p : Pattern} {v₁ v₂ : List Char} {s₁ s₂ s₀ : Spot} {m₁ m₂ : Match}

/-- A match in one text that ends before the cut is one in every text that is the same up to the cut. -/
theorem matchAt_isSome_of_cuts (hp : p.Local false) (h₁ : s₁.forget.Cut v₁ s₀.forget) (h₂ : s₂.forget.Cut v₂ s₀.forget)
    (hm : p.matchAt s₁ = some m₁) (hlong : v₁.length ≤ m₁.stop.after.length) : (p.matchAt s₂).isSome := by
  obtain ⟨m, hm, -⟩ := (matchAt_cut hp h₁).2 m₁ hm hlong
  rw [← Option.not_isNone, Bool.not_eq_true', ← Bool.not_eq_true, Option.isNone_iff_eq_none]
  intro hnone
  rw [(matchAt_cut hp h₂).1 hnone] at hm
  cases hm

/-- **Matches in two texts that are the same up to a cut are the same,** if both end before it. -/
theorem matches_of_cuts (hp : p.Local false) (h₁ : s₁.forget.Cut v₁ s₀.forget) (h₂ : s₂.forget.Cut v₂ s₀.forget)
    (hm₁ : p.matchAt s₁ = some m₁) (hm₂ : p.matchAt s₂ = some m₂) (hlong₁ : v₁.length ≤ m₁.stop.after.length)
    (hlong₂ : v₂.length ≤ m₂.stop.after.length) :
    (∃ x, m₁.stop.after = x ++ v₁ ∧ m₂.stop.after = x ++ v₂) ∧ ∀ n, m₁.captured n = m₂.captured n := by
  obtain ⟨m, hm, hcut₁⟩ := (matchAt_cut hp h₁).2 m₁ hm₁ hlong₁
  obtain ⟨m', hm', hcut₂⟩ := (matchAt_cut hp h₂).2 m₂ hm₂ hlong₂
  obtain rfl : m = m' := Option.some.inj (hm.symm.trans hm')
  exact ⟨⟨m.stop.after, hcut₁.after, hcut₂.after⟩, fun n => (hcut₁.captured n).trans (hcut₂.captured n).symm⟩

end Cuts

end Pattern

end ScenarioAudit
