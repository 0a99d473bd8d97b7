import ScenarioAudit.Proofs.Pattern.Find

/-! # Texts without a match

A pattern does not occur in a text that lacks a character that it needs (`Needs.occurs`), or that has the wrong
characters altogether (`occurs_of_not_possible`). One that starts at the start of a line does not occur if all lines
start with a character that it cannot go over (`occurs_of_linesStart`). The conditions on the pattern are computed from
its syntax.
-/

namespace ScenarioAudit.Pattern

open ScenarioAudit.Text

/-! ## Characters that a pattern needs -/

def Needs (c : Char) (p : Pattern) : Prop :=
  ∀ s t, p.Reaches s t → c ∈ s.after

theorem needs_char (c : Char) : Needs c (char c) := by
  intro s t h
  obtain ⟨rest, hs, -⟩ := reaches_char.mp h
  rw [hs]
  exact List.mem_cons_self

theorem Needs.append_left {c : Char} {p : Pattern} (h : Needs c p) (q : Pattern) : Needs c (p ++ q) := by
  rintro s t ⟨m, hm, -⟩
  exact h s m hm

theorem Needs.append_right {c : Char} {q : Pattern} (h : Needs c q) (p : Pattern) : Needs c (p ++ q) := by
  rintro s t ⟨m, hm, ht⟩
  obtain ⟨u, hu, -⟩ := hm.exists_skipped
  rw [hu]
  exact List.mem_append_right u (h m t ht)

theorem Needs.occurs {c : Char} {p : Pattern} (h : Needs c p) {text : List Char} (hc : c ∉ text) :
    p.occurs text = false := by
  rw [Bool.eq_false_iff]
  intro hoccurs
  obtain ⟨u, v, rfl, t, ht⟩ := occurs_iff.mp hoccurs
  exact hc (List.mem_append_right u (h _ t ht))

/-- Whether a pattern can match at all in texts of certain characters: each single character that it has to take in is
one of a class with some of them. -/
def possible (alphabet : List Char) : Pattern → Bool
  | nothing | many _ _ | star _ | same _ | look _ => true
  | one q => alphabet.any q
  | seq p q => p.possible alphabet && q.possible alphabet
  | alt p q => p.possible alphabet || q.possible alphabet
  | capture _ p => p.possible alphabet

theorem possible_of_reaches {alphabet : List Char} {p : Pattern} {s t : Spot} (h : p.Reaches s t)
    (hs : ∀ c ∈ s.after, c ∈ alphabet) : p.possible alphabet = true := by
  induction p generalizing s t with
  | nothing | many | star | same | look => rfl
  | one q =>
    obtain ⟨c, rest, hafter, hc, -⟩ := h
    refine List.any_eq_true.mpr ⟨c, hs c ?_, hc⟩
    rw [hafter]
    exact List.mem_cons_self
  | seq p q ihp ihq =>
    obtain ⟨m, hm, ht⟩ := h
    obtain ⟨u, hu, -⟩ := hm.exists_skipped
    have hm' : ∀ c ∈ m.after, c ∈ alphabet := by
      intro c hc
      apply hs
      rw [hu]
      exact List.mem_append_right u hc
    exact Bool.and_eq_true_iff.mpr ⟨ihp hm hs, ihq ht hm'⟩
  | alt p q ihp ihq =>
    rcases h with h | h
    · exact Bool.or_eq_true_iff.mpr (Or.inl (ihp h hs))
    · exact Bool.or_eq_true_iff.mpr (Or.inr (ihq h hs))
  | capture n p ih =>
    obtain ⟨m, hm, -⟩ := h
    exact ih hm hs

/-- **A text of the wrong characters has no match.** -/
theorem occurs_of_not_possible {alphabet : List Char} {p : Pattern} (h : p.possible alphabet = false)
    {text : List Char} (htext : ∀ c ∈ text, c ∈ alphabet) : p.occurs text = false := by
  rw [Bool.eq_false_iff]
  intro hoccurs
  obtain ⟨u, v, rfl, t, ht⟩ := occurs_iff.mp hoccurs
  rw [possible_of_reaches ht fun c hc => htext c (List.mem_append_right u hc)] at h
  cases h

/-! ## Characters that a pattern cannot go over -/

/-- Whether a pattern takes in nothing in front of a character. -/
def idle (c : Char) : Pattern → Bool
  | nothing | look _ => true
  | one q | many _ q => !q c
  | seq p q | alt p q => p.idle c && q.idle c
  | capture _ p => p.idle c
  | star _ | same _ => false

/-- Whether a pattern has no match in front of a character. -/
def stuck (c : Char) : Pattern → Bool
  | one q => !q c
  | seq p q => p.stuck c || p.idle c && q.stuck c
  | alt p q => p.stuck c && q.stuck c
  | capture _ p => p.stuck c
  | nothing | many _ _ | star _ | same _ | look _ => false

section Stuck

variable {c : Char} {p : Pattern} {s t : Spot}

theorem after_of_idle (hp : p.idle c = true) (hs : s.after.head? = some c) (h : p.Reaches s t) :
    t.after = s.after := by
  induction p generalizing s t with
  | nothing => exact congrArg Spot.after h
  | one q =>
    obtain ⟨d, rest, hafter, hd, -⟩ := h
    obtain rfl : d = c := by simpa [hafter] using hs
    rw [idle, hd] at hp
    cases hp
  | many greedy q =>
    rcases reaches_many.mp h with rfl | ⟨d, rest, hafter, hd, -⟩
    · rfl
    · obtain rfl : d = c := by simpa [hafter] using hs
      rw [idle, hd] at hp
      cases hp
  | seq p q ihp ihq =>
    obtain ⟨m, hm, ht⟩ := h
    obtain ⟨hp, hq⟩ := Bool.and_eq_true_iff.mp hp
    have hm' := ihp hp hs hm
    rw [ihq hq (by rw [hm', hs]) ht, hm']
  | alt p q ihp ihq =>
    obtain ⟨hp, hq⟩ := Bool.and_eq_true_iff.mp hp
    rcases h with h | h
    · exact ihp hp hs h
    · exact ihq hq hs h
  | capture n p ih =>
    obtain ⟨m, hm, rfl⟩ := h
    show m.after = s.after
    exact ih hp hs hm
  | look test => exact congrArg Spot.after h.2
  | star p => cases hp
  | same n => cases hp

theorem not_reaches_of_stuck (hp : p.stuck c = true) (hs : s.after.head? = some c) : ¬ p.Reaches s t := by
  induction p generalizing s t with
  | one q =>
    rintro ⟨d, rest, hafter, hd, -⟩
    obtain rfl : d = c := by simpa [hafter] using hs
    rw [stuck, hd] at hp
    cases hp
  | seq p q ihp ihq =>
    rintro ⟨m, hm, ht⟩
    rcases Bool.or_eq_true_iff.mp hp with hp | hp
    · exact ihp hp hs hm
    · obtain ⟨hidle, hq⟩ := Bool.and_eq_true_iff.mp hp
      exact ihq hq (by rw [after_of_idle hidle hs hm, hs]) ht
  | alt p q ihp ihq =>
    obtain ⟨hp, hq⟩ := Bool.and_eq_true_iff.mp hp
    rintro (h | h)
    · exact ihp hp hs h
    · exact ihq hq hs h
  | capture n p ih =>
    rintro ⟨m, hm, -⟩
    exact ih hp hs hm
  | nothing | many | star | same | look => cases hp

end Stuck

def LinesStart (c : Char) (text : List Char) : Prop :=
  ∀ u v, text = u ++ v → (∀ d ∈ u.getLast?, d = '\n') → ∀ d ∈ v.head?, d = c

/-- **A pattern at the start of lines does not occur** if it cannot go over what they start with. -/
theorem occurs_of_linesStart {c : Char} {p : Pattern} (hp : p.FromLineStart) (hstuck : p.stuck c = true)
    (hend : p.possible [] = false) {text : List Char} (htext : LinesStart c text) : p.occurs text = false := by
  rw [Bool.eq_false_iff]
  intro hoccurs
  obtain ⟨u, v, rfl, t, ht⟩ := occurs_iff.mp hoccurs
  cases v with
  | nil =>
    rw [possible_of_reaches ht (List.forall_mem_nil _)] at hend
    cases hend
  | cons d v =>
    have hu : ∀ e ∈ u.getLast?, e = '\n' := by
      intro e he
      refine hp _ t ht e ?_
      rwa [Spot.between, List.head?_reverse]
    obtain rfl : d = c := htext u (d :: v) rfl hu d rfl
    exact not_reaches_of_stuck hstuck rfl ht

theorem linesStart_nil (c : Char) : LinesStart c [] := by
  intro u v huv _ d hd
  obtain ⟨-, rfl⟩ := List.append_eq_nil_iff.mp huv.symm
  cases hd

theorem linesStart_line {c : Char} {l : List Char} (hl : l.head? = some c) (hclean : '\n' ∉ l) : LinesStart c l := by
  rintro u v rfl hu d hd
  rcases List.eq_nil_or_concat u with rfl | ⟨u, e, rfl⟩
  · rw [List.nil_append, hd] at hl
    exact Option.some.inj hl
  · obtain rfl : e = '\n' := hu e (by simp)
    simp at hclean

theorem LinesStart.cons {c : Char} {l text : List Char} (hl : l.head? = some c) (hclean : '\n' ∉ l)
    (h : LinesStart c text) : LinesStart c (l ++ '\n' :: text) := by
  intro u v huv hu d hd
  rcases List.append_eq_append_iff.mp huv with ⟨x, rfl, hx⟩ | ⟨x, rfl, rfl⟩
  · -- The place is in or after the line feed of the line.
    cases x with
    | nil =>
      rw [List.append_nil] at hu
      cases hlast : l.getLast? with
      | none =>
        rw [List.getLast?_eq_none_iff.mp hlast] at hl
        cases hl
      | some e =>
        obtain rfl := hu e hlast
        exact absurd (List.mem_of_getLast? hlast) hclean
    | cons e x =>
      obtain ⟨rfl, rfl⟩ := List.cons.inj hx
      refine h x v rfl ?_ d hd
      intro e he
      refine hu e ?_
      rw [List.getLast?_append, List.getLast?_cons, he]
      rfl
  · cases u with
    | nil =>
      rw [List.nil_append] at hl
      cases x with
      | nil => cases hl
      | cons e x =>
        obtain rfl : e = c := by simpa using hl
        simpa using hd.symm
    | cons e u =>
      -- No line feed is in the line.
      obtain ⟨u', e', hconcat⟩ := (List.eq_nil_or_concat (e :: u)).resolve_left (List.cons_ne_nil e u)
      rw [hconcat] at hu hclean
      obtain rfl : e' = '\n' := hu e' (by simp)
      simp at hclean

theorem occurs_of_line {p : Pattern} (hp : p.FromLineStart) (hend : p.possible [] = false) {l close : List Char}
    (hclean : '\n' ∉ l) (hclose : close = [] ∨ close = ['\n'])
    (h : ∀ t, ¬ p.Reaches (.between [] (l ++ close)) t) : p.occurs (l ++ close) = false := by
  rw [Bool.eq_false_iff]
  intro hoccurs
  obtain ⟨u, v, huv, t, ht⟩ := occurs_iff.mp hoccurs
  rcases List.eq_nil_or_concat u with rfl | ⟨u, c, rfl⟩
  · rw [List.nil_append] at huv
    exact h t (huv ▸ ht)
  · -- A later line is empty.
    obtain rfl : c = '\n' := hp _ t ht c (by simp [Spot.between])
    rw [List.concat_eq_append, List.append_assoc, List.singleton_append] at huv
    obtain ⟨x, -, hx⟩ := exists_append_of_not_mem huv hclean
    obtain rfl : v = [] := by
      rcases hclose with rfl | rfl
      · simp at hx
      · cases x with
        | nil => simpa using hx.symm
        | cons d x => simp at hx
    rw [possible_of_reaches ht (List.forall_mem_nil _)] at hend
    cases hend

end ScenarioAudit.Pattern
