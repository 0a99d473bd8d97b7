import ScenarioAudit.Proofs.Pattern.Find

/-! # Captured texts and the first match

What a pattern takes in consists of characters that it admits (`Takes.admits`). The text that a match has captured under
a number is what one of the patterns captured under that number took in (`captured_of_reaches`), so these patterns tell
what can be captured (`admits_of_captured`). The match that is found in a text is one at the first place where the
pattern leads on (`find_eq_some`).
-/

namespace ScenarioAudit.Pattern

open ScenarioAudit.Text

/-! ## What a pattern takes in -/

/-- A piece of text that a pattern takes in at some place. -/
def Takes (p : Pattern) (u : List Char) : Prop :=
  ∃ s t, p.Reaches s t ∧ Skipped u s t

def admits (c : Char) : Pattern → Bool
  | nothing | look _ => false
  | one p | many _ p => p c
  | seq p q | alt p q => p.admits c || q.admits c
  | star p | capture _ p => p.admits c
  | same _ => true

theorem Skipped.unique {u v : List Char} {s t : Spot} (h : Skipped u s t) (h' : Skipped v s t) : u = v :=
  List.append_cancel_right (h.1.symm.trans h'.1)

theorem exists_skipped_admits {p : Pattern} {s t : Spot} (h : p.Reaches s t) :
    ∃ u, Skipped u s t ∧ ∀ c ∈ u, p.admits c = true := by
  induction p generalizing s t with
  | nothing =>
    cases h
    exact ⟨[], .refl s, nofun⟩
  | one p =>
    obtain ⟨c, rest, hs, hc, rfl⟩ := h
    exact ⟨[c], skipped_next hs, List.forall_mem_singleton.mpr hc⟩
  | many greedy p =>
    obtain ⟨u, rest, hs, hu, rfl⟩ := h
    exact ⟨u, skipped_skip hs, hu⟩
  | seq p q ihp ihq =>
    obtain ⟨m, hm, ht⟩ := h
    obtain ⟨u, hu, hadmits⟩ := ihp hm
    obtain ⟨v, hv, hadmits'⟩ := ihq ht
    refine ⟨u ++ v, hu.trans hv, List.forall_mem_append.mpr ⟨?_, ?_⟩⟩
    · exact fun c hc => Bool.or_eq_true_iff.mpr (Or.inl (hadmits c hc))
    · exact fun c hc => Bool.or_eq_true_iff.mpr (Or.inr (hadmits' c hc))
  | alt p q ihp ihq =>
    rcases h with h | h
    · obtain ⟨u, hu, hadmits⟩ := ihp h
      exact ⟨u, hu, fun c hc => Bool.or_eq_true_iff.mpr (Or.inl (hadmits c hc))⟩
    · obtain ⟨u, hu, hadmits⟩ := ihq h
      exact ⟨u, hu, fun c hc => Bool.or_eq_true_iff.mpr (Or.inr (hadmits c hc))⟩
  | star p ih =>
    refine ReachesIn.invariant (I := fun m => ∃ u, Skipped u s m ∧ ∀ c ∈ u, p.admits c = true) ?_ h
      ⟨[], .refl s, nofun⟩
    rintro m m' ⟨u, hu, hadmits⟩ hstep
    obtain ⟨v, hv, hadmits'⟩ := ih hstep
    exact ⟨u ++ v, hu.trans hv, List.forall_mem_append.mpr ⟨hadmits, hadmits'⟩⟩
  | capture n p ih =>
    obtain ⟨m, hm, rfl⟩ := h
    obtain ⟨u, hu, hadmits⟩ := ih hm
    exact ⟨u, hu, hadmits⟩
  | same n =>
    obtain ⟨rest, hs, rfl⟩ := runText_eq_some.mp h
    exact ⟨_, skipped_skip hs, fun _ _ => rfl⟩
  | look test =>
    obtain ⟨-, rfl⟩ := h
    exact ⟨[], .refl t, nofun⟩

/-- **A pattern takes in nothing but what it admits.** -/
theorem Takes.admits {p : Pattern} {u : List Char} (h : p.Takes u) : ∀ c ∈ u, p.admits c = true := by
  obtain ⟨s, t, hreaches, hu⟩ := h
  obtain ⟨v, hv, hadmits⟩ := exists_skipped_admits hreaches
  rwa [hu.unique hv]

/-- One character or more of a class are characters of the class. -/
theorem Takes.forall_mem {q : Char → Bool} {u : List Char} (h : (many1 q).Takes u) : ∀ c ∈ u, q c = true := by
  intro c hc
  simpa [many1, Pattern.admits] using h.admits c hc

theorem Takes.ne_nil {q : Char → Bool} {u : List Char} (h : (many1 q).Takes u) : u ≠ [] := by
  obtain ⟨s, t, ⟨m, ⟨c, rest, -, -, rfl⟩, ht⟩, hu⟩ := h
  rintro rfl
  obtain ⟨v, hv⟩ := ht.exists_skipped
  have hgrown := hv.2.2
  have hkept := hu.2.2
  simp [Spot.next] at hgrown hkept
  omega

/-! ## Captured texts -/

/-- The patterns whose text is captured under a number. -/
def capturedUnder (n : Nat) : Pattern → List Pattern
  | nothing | one _ | many _ _ | same _ | look _ => []
  | seq p q | alt p q => p.capturedUnder n ++ q.capturedUnder n
  | star p => p.capturedUnder n
  | capture m p => if m = n then p :: p.capturedUnder n else p.capturedUnder n

section CapturedUnder

variable (n : Nat) (p q : Pattern)

@[simp] theorem capturedUnder_append : (p ++ q).capturedUnder n = p.capturedUnder n ++ q.capturedUnder n := rfl

@[simp] theorem capturedUnder_capture (m : Nat) :
    (capture m p).capturedUnder n = if m = n then p :: p.capturedUnder n else p.capturedUnder n := rfl

@[simp] theorem capturedUnder_opt : (opt p).capturedUnder n = p.capturedUnder n :=
  List.append_nil _

@[simp] theorem capturedUnder_char (c : Char) : (char c).capturedUnder n = [] := rfl

@[simp] theorem capturedUnder_many (greedy : Bool) (p : Char → Bool) : (many greedy p).capturedUnder n = [] := rfl

@[simp] theorem capturedUnder_many1 (p : Char → Bool) : (many1 p).capturedUnder n = [] := rfl

@[simp] theorem capturedUnder_look (test : Option Char → List Char → Bool) : (look test).capturedUnder n = [] := rfl

@[simp] theorem capturedUnder_word (w : String) : (word w).capturedUnder n = [] := by
  rw [word]
  induction w.toList with
  | nil => rfl
  | cons c l ih => exact ih

@[simp] theorem capturedUnder_caseless (w : String) : (caseless w).capturedUnder n = [] := by
  rw [caseless]
  induction w.toList with
  | nil => rfl
  | cons c l ih => exact ih

end CapturedUnder

/-- A piece of the text that was captured when a pattern took it in. -/
def Caught (p : Pattern) (caught : Nat × Span) : Prop :=
  ∃ q ∈ p.capturedUnder caught.1, ∃ s t, q.Reaches s t ∧ caught.2 = ⟨s.after, t.position - s.position⟩

theorem Caught.mono {p q : Pattern} (h : ∀ n, p.capturedUnder n ⊆ q.capturedUnder n) {caught : Nat × Span}
    (hp : p.Caught caught) : q.Caught caught := by
  obtain ⟨r, hr, hcaught⟩ := hp
  exact ⟨r, h _ hr, hcaught⟩

/-- **The captures grow by what the captured patterns took in.** -/
theorem captures_of_reaches {p : Pattern} {s t : Spot} (h : p.Reaches s t) :
    ∃ new, t.captures = new ++ s.captures ∧ ∀ x ∈ new, p.Caught x := by
  induction p generalizing s t with
  | nothing =>
    cases h
    exact ⟨[], rfl, nofun⟩
  | one p =>
    obtain ⟨c, rest, -, -, rfl⟩ := h
    exact ⟨[], rfl, nofun⟩
  | many greedy p =>
    obtain ⟨u, rest, -, -, rfl⟩ := h
    exact ⟨[], rfl, nofun⟩
  | seq p q ihp ihq =>
    obtain ⟨m, hm, ht⟩ := h
    obtain ⟨new, hnew, hcaught⟩ := ihp hm
    obtain ⟨new', hnew', hcaught'⟩ := ihq ht
    refine ⟨new' ++ new, by rw [hnew', hnew, List.append_assoc], List.forall_mem_append.mpr ⟨?_, ?_⟩⟩
    · exact fun x hx => (hcaught' x hx).mono fun _ => List.subset_append_right _ _
    · exact fun x hx => (hcaught x hx).mono fun _ => List.subset_append_left _ _
  | alt p q ihp ihq =>
    rcases h with h | h
    · obtain ⟨new, hnew, hcaught⟩ := ihp h
      exact ⟨new, hnew, fun x hx => (hcaught x hx).mono fun _ => List.subset_append_left _ _⟩
    · obtain ⟨new, hnew, hcaught⟩ := ihq h
      exact ⟨new, hnew, fun x hx => (hcaught x hx).mono fun _ => List.subset_append_right _ _⟩
  | star p ih =>
    refine ReachesIn.invariant (I := fun m => ∃ new, m.captures = new ++ s.captures ∧ ∀ x ∈ new, p.Caught x) ?_ h
      ⟨[], rfl, nofun⟩
    rintro m m' ⟨new, hnew, hcaught⟩ hstep
    obtain ⟨new', hnew', hcaught'⟩ := ih hstep
    exact ⟨new' ++ new, by rw [hnew', hnew, List.append_assoc], List.forall_mem_append.mpr ⟨hcaught', hcaught⟩⟩
  | capture n p ih =>
    obtain ⟨m, hm, rfl⟩ := h
    obtain ⟨new, hnew, hcaught⟩ := ih hm
    refine ⟨(n, ⟨s.after, m.position - s.position⟩) :: new, congrArg _ hnew, List.forall_mem_cons.mpr ⟨?_, ?_⟩⟩
    · exact ⟨p, by simp, s, m, hm, rfl⟩
    · refine fun x hx => (hcaught x hx).mono fun k => ?_
      rw [capturedUnder_capture]
      split
      · exact List.subset_cons_self _ _
      · exact List.Subset.refl _
  | same n =>
    obtain ⟨rest, -, rfl⟩ := runText_eq_some.mp h
    exact ⟨[], rfl, nofun⟩
  | look test =>
    obtain ⟨-, rfl⟩ := h
    exact ⟨[], rfl, nofun⟩

theorem Caught.takes {p : Pattern} {x : Nat × Span} (h : p.Caught x) :
    x.2.length ≤ x.2.start.length ∧ ∃ q ∈ p.capturedUnder x.1, q.Takes x.2.text := by
  obtain ⟨q, hq, s, t, hreaches, hspan⟩ := h
  obtain ⟨u, hu⟩ := hreaches.exists_skipped
  have ⟨hafter, _, hposition⟩ := hu
  have hlength : t.position - s.position = u.length := by omega
  rw [hspan, Span.text, hlength, hafter, List.take_left]
  refine ⟨?_, q, hq, s, t, hreaches, hu⟩
  rw [List.length_append]
  exact Nat.le_add_right _ _

/-- **What is captured is what a captured pattern took in**, unless it was captured before. -/
theorem captured_of_reaches {p : Pattern} {s t : Spot} (h : p.Reaches s t) (n : Nat) :
    t.captured n = s.captured n ∨ ∃ q ∈ p.capturedUnder n, q.Takes (t.captured n) := by
  obtain ⟨new, hnew, hcaught⟩ := captures_of_reaches h
  cases hfind : new.find? (·.1 = n) with
  | none =>
    left
    rw [Spot.captured, Spot.captured, hnew, List.find?_append, hfind, Option.none_or]
  | some x =>
    right
    have hx : x.1 = n := by simpa using List.find?_some hfind
    obtain ⟨-, q, hq, htakes⟩ := (hcaught x (List.mem_of_find?_eq_some hfind)).takes
    have htext : t.captured n = x.2.text := by
      rw [Spot.captured, hnew, List.find?_append, hfind]
      rfl
    rw [htext]
    exact ⟨q, hx ▸ hq, htakes⟩

theorem captured_eq_of_reaches {p : Pattern} {n : Nat} (hp : p.capturedUnder n = []) {s t : Spot}
    (h : p.Reaches s t) : t.captured n = s.captured n := by
  refine (captured_of_reaches h n).resolve_right ?_
  rw [hp]
  rintro ⟨q, ⟨⟩, -⟩

theorem skipped_of_capture {n : Nat} {p : Pattern} {s t : Spot} (h : (capture n p).Reaches s t) :
    Skipped (t.captured n) s t ∧ p.Takes (t.captured n) := by
  obtain ⟨m, hm, rfl⟩ := h
  obtain ⟨u, hu⟩ := hm.exists_skipped
  have ⟨hafter, _, hposition⟩ := hu
  have hlength : m.position - s.position = u.length := by omega
  have htext : Spot.captured { m with captures := (n, ⟨s.after, m.position - s.position⟩) :: m.captures } n = u := by
    simp [Spot.captured, Span.text, hlength, hafter]
  rw [htext]
  exact ⟨hu, s, m, hm, hu⟩

theorem admits_of_captured {p q : Pattern} {n : Nat} (hp : p.capturedUnder n = [q]) {s t : Spot} (h : p.Reaches s t)
    (hs : s.captures = []) : ∀ c ∈ t.captured n, q.admits c = true := by
  rcases captured_of_reaches h n with hkept | ⟨q', hq', htakes⟩
  · rw [hkept, Spot.captured, hs]
    nofun
  · rw [hp] at hq'
    rw [← List.mem_singleton.mp hq']
    exact htakes.admits

/-! ## Matches that are found -/

theorem reaches_of_findFrom {p : Pattern} {l : List Char} {s : Spot} {m : Match} (h : p.findFrom l s = some m) :
    m.start.captures = [] ∧ p.Reaches m.start m.stop := by
  have hhere {s : Spot} (h : p.matchAt s = some m) : m.start.captures = [] ∧ p.Reaches m.start m.stop := by
    obtain ⟨hstart, hreaches⟩ := reaches_of_matchAt h
    rw [hstart]
    exact ⟨rfl, hreaches⟩
  induction l generalizing s with
  | nil => exact hhere h
  | cons c l ih =>
    rw [findFrom] at h
    cases hmatch : p.matchAt s with
    | some m' =>
      rw [hmatch] at h
      exact hhere (hmatch.trans h)
    | none =>
      rw [hmatch] at h
      exact ih h

theorem reaches_of_mem_findAll {p : Pattern} {text : List Char} {m : Match} (h : m ∈ p.findAll text) :
    m.start.captures = [] ∧ p.Reaches m.start m.stop := by
  rw [findAll] at h
  generalize text.length + 1 = fuel at h
  generalize Spot.start text = s at h
  induction fuel generalizing s with
  | zero => cases h
  | succ fuel ih =>
    rw [findAllAfter] at h
    cases hfind : p.findAfter s with
    | none =>
      rw [hfind] at h
      cases h
    | some m' =>
      simp only [hfind] at h
      -- The first match, or one after it.
      have hrest : m = m' ∨ ∃ s', m ∈ p.findAllAfter fuel s' := by
        split at h
        · exact (List.mem_cons.mp h).imp_right fun h => ⟨_, h⟩
        · cases hafter : m'.stop.after with
          | nil =>
            rw [hafter] at h
            exact Or.inl (List.mem_singleton.mp h)
          | cons c rest =>
            rw [hafter] at h
            exact (List.mem_cons.mp h).imp_right fun h => ⟨_, h⟩
      rcases hrest with rfl | ⟨s', hs'⟩
      · exact reaches_of_findFrom hfind
      · exact ih s' hs'

/-- **The match that is found after a place is at the first place from there on where there is one.** -/
theorem findAfter_eq_some {p : Pattern} {s : Spot} {m : Match} (h : p.findAfter s = some m) :
    ∃ u v, s.after = u ++ v ∧ p.matchAt (s.skip u v) = some m ∧
      ∀ u' v' t, s.after = u' ++ v' → p.Reaches (s.skip u' v').forget t → u.length ≤ u'.length := by
  have hfirst : ∀ (l : List Char) (s : Spot), s.after = l → p.findFrom l s = some m →
      ∃ u v, l = u ++ v ∧ p.matchAt (s.skip u v) = some m ∧
        ∀ u' v' t, l = u' ++ v' → p.Reaches (s.skip u' v').forget t → u.length ≤ u'.length := by
    intro l
    induction l with
    | nil =>
      intro s hs h
      refine ⟨[], [], rfl, ?_, fun _ _ _ _ _ => Nat.zero_le _⟩
      rwa [Spot.skip_nil hs]
    | cons c l ih =>
      intro s hs h
      rw [findFrom] at h
      cases hmatch : p.matchAt s with
      | some m' =>
        rw [hmatch, Option.some.injEq] at h
        subst h
        refine ⟨[], c :: l, rfl, ?_, fun _ _ _ _ _ => Nat.zero_le _⟩
        rwa [Spot.skip_nil hs]
      | none =>
        simp only [hmatch] at h
        obtain ⟨u, v, rfl, hm, hmin⟩ := ih (s.next c l) rfl h
        rw [Spot.skip_cons] at hm
        refine ⟨c :: u, v, rfl, hm, ?_⟩
        intro u' v' t huv ht
        cases u' with
        | nil =>
          rw [← show c :: (u ++ v) = v' from huv, Spot.skip_nil hs] at ht
          have hsome := matchAt_isSome.mpr ⟨t, ht⟩
          rw [hmatch] at hsome
          cases hsome
        | cons d u' =>
          rw [List.cons_append, List.cons.injEq] at huv
          obtain ⟨rfl, huv⟩ := huv
          rw [← Spot.skip_cons, ← huv] at ht
          exact Nat.succ_le_succ (hmin u' v' t huv ht)
  exact hfirst s.after s rfl h

theorem forget_skip_start {text u v : List Char} : ((Spot.start text).skip u v).forget = .between u v := by
  simp [Spot.start, Spot.skip, Spot.forget, Spot.between]

theorem find_eq_some {p : Pattern} {text : List Char} {m : Match} (h : p.find text = some m) :
    ∃ u v, text = u ++ v ∧ p.Reaches (.between u v) m.stop ∧
      ∀ u' v' t, text = u' ++ v' → p.Reaches (.between u' v') t → u.length ≤ u'.length := by
  obtain ⟨u, v, htext, hm, hmin⟩ := findAfter_eq_some h
  obtain ⟨-, hreaches⟩ := reaches_of_matchAt hm
  rw [forget_skip_start] at hreaches
  refine ⟨u, v, htext, hreaches, ?_⟩
  intro u' v' t htext' ht
  have ht' : p.Reaches ((Spot.start text).skip u' v').forget t := by rwa [forget_skip_start]
  exact hmin u' v' t htext' ht'

end ScenarioAudit.Pattern
